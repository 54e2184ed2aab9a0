import LedBench.Text.Digits

namespace LedBench

/-- The number `digits * 10 ^ (up - down)`. -/
structure Decimal where
  digits : Nat
  up : Nat
  down : Nat
  deriving DecidableEq, Repr

namespace Decimal

/-- The exponent after an `e`: a sign if there is one, and digits. -/
def exponent? : List Char → Option (Nat × Nat)
  | '-' :: cs => (Text.digits? 10 cs).map (0, ·)
  | '+' :: cs => (Text.digits? 10 cs).map (·, 0)
  | cs => (Text.digits? 10 cs).map (·, 0)

/-- Digits with at most one point among or beside them, and perhaps an exponent. -/
def unsigned? (cs : List Char) : Option Decimal := do
  let isExponent := fun c => c = 'e' || c = 'E'
  let number := cs.takeWhile (!isExponent ·)
  let whole := number.takeWhile (· ≠ '.')
  let places := (number.dropWhile (· ≠ '.')).drop 1
  let digits ← Text.digits? 10 (whole ++ places)
  match cs.dropWhile (!isExponent ·) with
  | [] => some ⟨digits, 0, places.length⟩
  | _ :: cs => (exponent? cs).map fun (up, down) => ⟨digits, up, places.length + down⟩

/-- The least number that is too large for a double: half a unit in the last place above the
largest. -/
def doubleLimit : Nat := 1 <<< 1024 - 1 <<< 970

/-- The number is below the range where it would read as an infinite double. -/
def isFinite (d : Decimal) : Bool :=
  let size := (Nat.toDigits 10 d.digits).length + d.up
  d.digits = 0 || size ≤ 308 + d.down ||
    (size ≤ 309 + d.down && d.digits * Nat.pow 10 (d.up - d.down) < doubleLimit * Nat.pow 10 (d.down - d.up))

end Decimal

end LedBench
