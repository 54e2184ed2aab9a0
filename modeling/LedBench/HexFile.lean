import LedBench.Firmware.Target
import LedBench.Text.Digits

namespace LedBench.HexFile

open Firmware

inductive Kind where
  | data
  | endOfFile
  /-- Its data are the upper half of the addresses that follow. -/
  | extendedLinear
  deriving DecidableEq, Repr

def Kind.code : Kind → UInt8
  | data => 0x00
  | endOfFile => 0x01
  | extendedLinear => 0x04

structure Record where
  kind : Kind
  address : UInt16
  data : List UInt8
  deriving DecidableEq, Repr

/-- The high byte, then the low byte. -/
def bigEndian (w : UInt16) : List UInt8 := [(w >>> 8).toUInt8, w.toUInt8]

/-- The low byte, then the high byte. -/
def littleEndian (w : UInt16) : List UInt8 := [w.toUInt8, (w >>> 8).toUInt8]

namespace Record

/-- The bytes of a record before its checksum: count, address, kind, data. -/
def body (r : Record) : List UInt8 :=
  [UInt8.ofNat r.data.length] ++ bigEndian r.address ++ [r.kind.code] ++ r.data

/-- The byte that makes all bytes of the record add up to 0. -/
def checksum (r : Record) : UInt8 := 0 - r.body.foldl (· + ·) 0

def bytes (r : Record) : List UInt8 := r.body ++ [r.checksum]

def byteText (b : UInt8) : List Char := (Text.hexDigits 2 b.toNat).map Char.toUpper

def text (r : Record) : List Char := ':' :: r.bytes.flatMap byteText ++ ['\n']

end Record

/-- The records of a file that holds only a configuration word. Addresses count bytes, two for each
program word, low byte first. -/
def ofConfigWord (w : ConfigWord) : List Record :=
  let address := w.address.toUInt32 * 2
  [⟨.extendedLinear, 0, bigEndian (address >>> 16).toUInt16⟩,
    ⟨.data, address.toUInt16, littleEndian w.value⟩,
    ⟨.endOfFile, 0, []⟩]

def render (rs : List Record) : String := String.ofList (rs.flatMap Record.text)

end LedBench.HexFile
