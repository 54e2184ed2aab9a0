namespace LedBench.Text

/-- The value of a digit in a base up to sixteen, letters of either case standing for ten and on. -/
def digitValue? (base : Nat) (c : Char) : Option Nat :=
  let v :=
    if '0' ≤ c ∧ c ≤ '9' then c.toNat - '0'.toNat
    else if 'a' ≤ c ∧ c ≤ 'f' then c.toNat - 'a'.toNat + 10
    else if 'A' ≤ c ∧ c ≤ 'F' then c.toNat - 'A'.toNat + 10
    else base
  if v < base then some v else none

/-- The number whose digits in `base` are `cs`, after `acc`. -/
def digitsFrom? (base acc : Nat) : List Char → Option Nat
  | [] => some acc
  | c :: cs => do digitsFrom? base (acc * base + (← digitValue? base c)) cs

/-- A number of at least one digit, leading zeros allowed. -/
def digits? (base : Nat) (cs : List Char) : Option Nat :=
  if cs.isEmpty then none else digitsFrom? base 0 cs

/-- A decimal number with an optional plus sign. -/
def decimal? : List Char → Option Nat
  | '+' :: cs => digits? 10 cs
  | cs => digits? 10 cs

/-- A decimal number with an optional plus sign that fits in 64 bits. -/
def word64? (s : String) : Option UInt64 :=
  match decimal? s.toList with
  | some n => if n < UInt64.size then some (UInt64.ofNat n) else none
  | none => none

/-- The digits of `n` in base sixteen, at least `width` of them. -/
def hexDigits (width n : Nat) : List Char :=
  let ds := Nat.toDigits 16 n
  List.replicate (width - ds.length) '0' ++ ds

/-- A number in base sixteen with its `0x`, at least `width` digits. -/
def hex (width n : Nat) : String := "0x" ++ String.ofList (hexDigits width n)

end LedBench.Text
