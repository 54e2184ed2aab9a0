import LedBench.Text.Blank
import LedBench.Text.Digits

namespace LedBench

/-- A pin of a chip, named by its port and the bit within it. -/
structure PinRef where
  port : String
  bit : UInt8
  deriving DecidableEq, Repr

/-- Why a text names no pin. -/
inductive ConnectionError where
  /-- There is no point, or nothing before the first one. -/
  | malformed (connection : String)
  /-- What follows the first point is no number below eight. -/
  | invalidBit (connection bit : String)
  deriving DecidableEq, Repr

def ConnectionError.message : ConnectionError → String
  | .malformed c => "Connection '" ++ c ++ "' is not of the form '<port>.<bit>'"
  | .invalidBit c b => "Invalid bit '" ++ b ++ "' in connection '" ++ c ++ "'"

namespace PinRef

/-- The text of a reference: port, point, bit. -/
def text (p : PinRef) : String := p.port ++ "." ++ toString p.bit.toNat

/-- The bit that the text after the point names, from 0 to 7. -/
def bit? (cs : List Char) : Option UInt8 :=
  match Text.decimal? cs with
  | some n => if n < 8 then some (UInt8.ofNat n) else none
  | none => none

/-- Reads a reference. White space around it is dropped, the port ends at the first point and its
ASCII letters are lowered; errors quote the text as it was given. -/
def parse (s : String) : Except ConnectionError PinRef :=
  let cs := Text.trimmed s.toList
  let port := cs.takeWhile (· ≠ '.')
  match cs.dropWhile (· ≠ '.') with
  | [] => .error (.malformed s)
  | _ :: rest =>
    if port.isEmpty then .error (.malformed s)
    else match bit? rest with
      | some bit => .ok ⟨String.ofList (port.map Char.toLower), bit⟩
      | none => .error (.invalidBit s (String.ofList rest))

end PinRef

end LedBench
