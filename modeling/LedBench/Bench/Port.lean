import LedBench.Bench.Event
import LedBench.Chip.Descriptor

namespace LedBench.Bench

open Chip

/-- A port: how it is laid out and what its registers hold. -/
structure Port where
  layout : PortLayout
  tris : UInt8
  lat : UInt8
  ansel : UInt8
  deriving DecidableEq, Repr

namespace Port

def mask (p : Port) : UInt8 := p.layout.pinMask

def powered (layout : PortLayout) : Port where
  layout := layout
  tris := layout.reset.tris &&& layout.pinMask
  lat := 0
  ansel := layout.reset.ansel &&& layout.pinMask

/-- The levels on the pins of the package: only outputs are driven, all else is low. -/
def pins (p : Port) : UInt8 := p.lat &&& ~~~ p.tris &&& p.mask

/-- What a read of the port register sees through the digital input buffer: an output pin reads back
its latch, while an input pin, which nothing drives here, and a pin left in analog mode read 0. -/
def portValue (p : Port) : UInt8 := p.lat &&& ~~~ p.tris &&& ~~~ p.ansel &&& p.mask

def ansel? (p : Port) : Option UInt8 := p.layout.ansel.map fun _ => p.ansel

/-- The address is one of the port's registers. -/
def claims (p : Port) (addr : UInt16) : Bool := p.layout.registers.contains addr

/-- The value of the register at an address; none if the port has no register there. -/
def read? (p : Port) (addr : UInt16) : Option UInt8 :=
  if addr = p.layout.port then some p.portValue
  else if addr = p.layout.tris then some p.tris
  else if some addr = p.layout.lat then some p.lat
  else if some addr = p.layout.ansel then some p.ansel
  else none

/-- Writes the register at an address; bits without a pin stay 0. The port register and the latch
are written through the same latch. -/
def write? (p : Port) (addr : UInt16) (value : UInt8) : Option Port :=
  let value := value &&& p.mask
  if addr = p.layout.port ∨ some addr = p.layout.lat then some { p with lat := value }
  else if addr = p.layout.tris then some { p with tris := value }
  else if some addr = p.layout.ansel then some { p with ansel := value }
  else none

/-- Returns direction and analog select to their reset values. The latch is cleared at power-on
and kept otherwise. -/
def reset (p : Port) (cause : ResetCause) : Port :=
  { powered p.layout with lat := if cause = .powerOn then 0 else p.lat }

/-- The registers by name, `<port>.<register>`, with their values as a read sees them. -/
def named (p : Port) : List (String × UInt8) :=
  let name (register : String) := p.layout.id ++ "." ++ register
  [(name "port", p.portValue), (name "tris", p.tris)] ++
    (p.layout.lat.map fun _ => (name "lat", p.lat)).toList ++
    (p.ansel?.map fun a => (name "ansel", a)).toList

/-- The pins whose level differs between two states of a port, in ascending order, with their new
level. -/
def pinChanges (before after : Port) : List (UInt8 × Bool) :=
  [0, 1, 2, 3, 4, 5, 6, 7].filterMap fun (bit : UInt8) =>
    if (before.pins ^^^ after.pins) &&& (1 <<< bit) = 0 then none
    else some (bit, after.pins &&& (1 <<< bit) ≠ 0)

end Port

end LedBench.Bench
