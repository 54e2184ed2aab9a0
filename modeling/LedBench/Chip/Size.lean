import LedBench.Halt
import LedBench.Text.Blank
import LedBench.Text.Digits
import LedBench.Text.Numeric

namespace LedBench.Chip

/-- Why a text is no size. -/
inductive SizeError where
  | empty
  /-- The text is a number with no unit. -/
  | noMultiple
  /-- The text does not start with a number. -/
  | noValue
  | invalidValue
  | invalidMultiple
  deriving DecidableEq, Repr

def SizeError.reason : SizeError → String
  | .empty => "input is empty"
  | .noMultiple => "no multiple"
  | .noValue => "no value"
  | .invalidValue => "invalid value"
  | .invalidMultiple => "invalid multiple"

def SizeError.message (e : SizeError) : String := "Invalid size format: " ++ e.reason

namespace Size

/-- A character of the number in front: a numeral of any script, or a point. -/
def isNumeral (c : Char) : Bool := Text.isNumeric c || c = '.'

/-- Cuts a text after so many bytes of its encoding; none inside a character. -/
def cutAtByte : List Char → Nat → Option (List Char × List Char)
  | cs, 0 => some ([], cs)
  | [], _ + 1 => none
  | c :: cs, n + 1 =>
    if c.utf8Size ≤ n + 1 then
      (cutAtByte cs (n + 1 - c.utf8Size)).map fun (head, tail) => (c :: head, tail)
    else none

/-- The number written by digits with at most one point among or beside them, as the nearest
double. -/
def value? (cs : List Char) : Option Float :=
  let whole := cs.takeWhile (· ≠ '.')
  let places := (cs.dropWhile (· ≠ '.')).drop 1
  match Text.digits? 10 (whole ++ places) with
  | some n => some (Float.ofScientific n true places.length)
  | none => none

/-- Zero, or within the range where doubles keep their full precision. -/
def isUsable (x : Float) : Bool :=
  let exponent := x.toBits.toNat >>> 52 % 0x800
  x == 0 || (exponent ≠ 0 && exponent ≠ 2047)

/-- The units of a thousand and of 1024, by their letter. -/
def steps : List (Char × Nat) :=
  [('k', 1), ('m', 2), ('g', 3), ('t', 4), ('p', 5), ('e', 6), ('z', 7), ('y', 8)]

/-- The bytes that a unit stands for. `KB` is 1024; otherwise case does not matter, a letter before
`B` counts in thousands and a letter with `i` in steps of 1024. -/
def unit? (cs : List Char) : Option Nat :=
  if cs = ['K', 'B'] then some 1024
  else match cs.map Char.toLower with
    | ['b'] => some 1
    | [letter, 'b'] => (steps.lookup letter).map (Nat.pow 1000)
    | [letter, 'i', 'b'] => (steps.lookup letter).map (Nat.pow 1024)
    | _ => none

/-- Reads a size in bytes. The number in front is cut off at as many bytes as it has characters,
which traps when that falls inside a character. Fractions of a byte are dropped, and the largest
64-bit number stands for all larger ones. -/
def parse (s : String) : Except (Halt SizeError) UInt64 :=
  let cs := Text.trimmed s.toList
  let count := (cs.takeWhile isNumeral).length
  if cs.isEmpty then .error (.refused .empty)
  else if count = cs.length then .error (.refused .noMultiple)
  else if count = 0 then .error (.refused .noValue)
  else match cutAtByte cs count with
    | none => .error .trap
    | some (head, tail) =>
      match value? head with
      | none => .error (.refused .invalidValue)
      | some x =>
        if !isUsable x then .error (.refused .invalidValue)
        else match unit? (Text.trimmed tail) with
          | none => .error (.refused .invalidMultiple)
          | some unit => .ok (x * Float.ofNat unit).toUInt64

end Size

end LedBench.Chip
