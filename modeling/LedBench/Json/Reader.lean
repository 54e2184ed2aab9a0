import LedBench.Json.Basic
import LedBench.Json.Token

namespace LedBench.Json

def isDigits (cs : List Char) : Bool := !cs.isEmpty && cs.all Char.isDigit

/-- The form of a number: sign, whole part without leading zeros, fraction, exponent. -/
def isNumber (cs : List Char) : Bool :=
  let cs := if cs.head? = some '-' then cs.tail else cs
  let whole := cs.takeWhile Char.isDigit
  let rest := cs.dropWhile Char.isDigit
  let fractionOk := fun (cs : List Char) => cs.head? ≠ some '.' || isDigits (cs.tail.takeWhile Char.isDigit)
  let afterFraction := if rest.head? = some '.' then rest.tail.dropWhile Char.isDigit else rest
  let exponentOk := match afterFraction with
    | [] => true
    | e :: ds => (e = 'e' || e = 'E') &&
      isDigits (if ds.head? = some '-' || ds.head? = some '+' then ds.tail else ds)
  isDigits whole && (whole.length = 1 || whole.head? ≠ some '0') && fractionOk rest && exponentOk

def ofWord? (s : String) : Option Json :=
  if s = "null" then some .null
  else if s = "true" then some (.bool true)
  else if s = "false" then some (.bool false)
  else if isNumber s.toList then
    match Text.digits? 10 s.toList with
    | some n => some (if n < UInt64.size then .nat n else .number s)
    | none => some (.number s)
  else none

mutual
/-- Reads a value from the front of a list of words, with the words that follow it. -/
def value? : Nat → List Token → Option (Json × List Token)
  | 0, _ => none
  | fuel + 1, ts =>
    match ts with
    | .str s :: rest => some (.str s, rest)
    | .word w :: rest => (ofWord? w).map (·, rest)
    | .mark '[' :: .mark ']' :: rest => some (.arr [], rest)
    | .mark '[' :: rest => (items? fuel rest).map fun (vs, rest) => (.arr vs, rest)
    | .mark '\x7b' :: .mark '\x7d' :: rest => some (.obj [], rest)
    | .mark '\x7b' :: rest => (members? fuel rest).map fun (ms, rest) => (.obj ms, rest)
    | _ => none

def items? : Nat → List Token → Option (List Json × List Token)
  | 0, _ => none
  | fuel + 1, ts =>
    match value? fuel ts with
    | some (v, .mark ',' :: rest) => (items? fuel rest).map fun (vs, rest) => (v :: vs, rest)
    | some (v, .mark ']' :: rest) => some ([v], rest)
    | _ => none

def members? : Nat → List Token → Option (List (String × Json) × List Token)
  | 0, _ => none
  | fuel + 1, ts =>
    match ts with
    | .str k :: .mark ':' :: rest =>
      match value? fuel rest with
      | some (v, .mark ',' :: rest) =>
        (members? fuel rest).map fun (ms, rest) => ((k, v) :: ms, rest)
      | some (v, .mark '\x7d' :: rest) => some ([(k, v)], rest)
      | _ => none
    | _ => none
end

/-- Reads a text that holds one value. A value never has more parts than words, so twice their
number is fuel enough. -/
def parse? (s : String) : Option Json := do
  let ts ← tokens? s
  match value? (2 * ts.length + 1) ts with
  | some (v, []) => some v
  | _ => none

end LedBench.Json
