import LedBench.Number.Decimal

namespace LedBench.Yaml

inductive Kind where
  | null
  | bool (b : Bool)
  | nat (n : Nat)
  /-- A whole number written with a minus sign, by its size. -/
  | negative (n : Nat)
  /-- A number that is not written as a whole one. -/
  | real
  | text
  deriving DecidableEq, Repr

def isNullWord (s : String) : Bool := s = "null" || s = "Null" || s = "NULL" || s = "~"

def boolWord? (s : String) : Option Bool :=
  if s = "true" || s = "True" || s = "TRUE" then some true
  else if s = "false" || s = "False" || s = "FALSE" then some false
  else none

/-- Digits, perhaps behind a sign, that start with a zero they do not need. They make no number. -/
def hasNeedlessZero (cs : List Char) : Bool :=
  let digits := match cs with
    | '+' :: ds => ds
    | '-' :: ds => ds
    | ds => ds
  match digits with
  | '0' :: d :: ds => (d :: ds).all Char.isDigit
  | _ => false

/-- Digits of base 16, 8 or 2 behind their mark, or decimal ones. -/
def magnitude? : List Char → Option Nat
  | '0' :: 'x' :: ds => Text.digits? 16 ds
  | '0' :: 'o' :: ds => Text.digits? 8 ds
  | '0' :: 'b' :: ds => Text.digits? 2 ds
  | ds => if hasNeedlessZero ds then none else Text.digits? 10 ds

def unsigned? : List Char → Option Nat
  | '+' :: cs => magnitude? cs
  | cs => magnitude? cs

/-- The size of a whole number with a minus sign. -/
def negative? : List Char → Option Nat
  | '-' :: cs => magnitude? cs
  | _ => none

/-- A number with a point or an exponent, an infinity, or the word for no number. -/
def isReal (cs : List Char) : Bool :=
  let unsigned := match cs with
    | '+' :: '-' :: _ => []
    | '+' :: cs => cs
    | '-' :: cs => cs
    | cs => cs
  let word := String.ofList cs
  String.ofList unsigned ∈ [".inf", ".Inf", ".INF"] || word ∈ [".nan", ".NaN", ".NAN"] ||
    (!hasNeedlessZero cs && (Decimal.unsigned? unsigned).any (·.isFinite))

/-- What an unquoted scalar is. Whole numbers beyond 128 bits are taken as other numbers. -/
def Kind.of (s : String) : Kind :=
  let cs := s.toList
  if s.isEmpty || isNullWord s then .null
  else match boolWord? s with
    | some b => .bool b
    | none =>
      match (unsigned? cs).filter (· < 1 <<< 128), (negative? cs).filter (· ≤ 1 <<< 127) with
      | some n, _ => .nat n
      | none, some n => .negative n
      | none, none => if isReal cs then .real else .text

end LedBench.Yaml
