namespace LedBench.Number

/-- A finite number as `mantissa * 2 ^ shift / 2 ^ drop`, by the fields of its 64 bits. -/
structure Binary where
  negative : Bool
  mantissa : Nat
  shift : Nat
  drop : Nat

/-- The parts of a finite number; none of an infinity or of what is no number. -/
def Binary.ofFloat? (x : Float) : Option Binary :=
  let bits := x.toBits.toNat
  let fraction := bits % 0x10000000000000
  let exponent := bits >>> 52 % 0x800
  let negative := bits >>> 63 = 1
  if exponent = 2047 then none
  else if exponent = 0 then some ⟨negative, fraction, 0, 1074⟩
  else some ⟨negative, fraction + 0x10000000000000, exponent - 1075, 1075 - exponent⟩

/-- The decimal digits of `n / 10 ^ places`. -/
def pointed (places n : Nat) : String :=
  if places = 0 then toString n
  else
    let unit := Nat.pow 10 places
    let tail := Nat.toDigits 10 (n % unit)
    toString (n / unit) ++ "." ++
      String.ofList (List.replicate (places - tail.length) '0' ++ tail)

/-- `num / den` to the nearest whole number, a half to the even neighbour. -/
def roundDiv (num den : Nat) : Nat :=
  let q := num / den
  let r := num % den
  if 2 * r < den then q
  else if den < 2 * r then q + 1
  else if q % 2 = 0 then q else q + 1

/-- A number with `places` decimal places. It is taken exactly, so that the last place is the
nearest one. -/
def fixed (places : Nat) (x : Float) : String :=
  match Binary.ofFloat? x with
  | some b =>
    (if b.negative then "-" else "") ++
      pointed places (roundDiv ((b.mantissa <<< b.shift) * Nat.pow 10 places) (1 <<< b.drop))
  | none => if x.isNaN then "NaN" else if x < 0 then "-inf" else "inf"

end LedBench.Number
