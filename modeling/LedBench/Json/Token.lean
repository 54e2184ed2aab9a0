import LedBench.Text.Digits

namespace LedBench.Json

/-- A word of JSON text. A number or a name is kept as it is written. -/
inductive Token where
  | mark (c : Char)
  | str (s : String)
  | word (s : String)
  deriving DecidableEq, Repr

/-- Where a reader stands between two characters. Text is kept with its last character first. -/
inductive Place where
  | between
  | inWord (text : List Char)
  | inString (text : List Char)
  | escaped (text : List Char)
  /-- In the digits of a code unit, after a first half of a pair if one is open. -/
  | inCode (text : List Char) (high : Option Nat) (digits : List Char)
  /-- After the first half of a pair, before the backslash of the second. -/
  | betweenHalves (text : List Char) (high : Nat)
  | beforeHalf (text : List Char) (high : Nat)
  deriving DecidableEq, Repr

def escapedBy? : Char → Option Char
  | '"' => some '"'
  | '\\' => some '\\'
  | '/' => some '/'
  | 'b' => some '\x08'
  | 'f' => some '\x0c'
  | 'n' => some '\n'
  | 'r' => some '\r'
  | 't' => some '\t'
  | _ => none

def takeUnit (text : List Char) (high : Option Nat) (unit : Nat) : Option Place :=
  match high with
  | some h =>
    if 0xDC00 ≤ unit ∧ unit ≤ 0xDFFF then
      some (.inString (Char.ofNat (0x10000 + (h - 0xD800) * 0x400 + (unit - 0xDC00)) :: text))
    else none
  | none =>
    if 0xD800 ≤ unit ∧ unit ≤ 0xDBFF then some (.betweenHalves text unit)
    else if 0xDC00 ≤ unit ∧ unit ≤ 0xDFFF then none
    else some (.inString (Char.ofNat unit :: text))

def enter (c : Char) (tokens : List Token) : Option (Place × List Token) :=
  if c = ' ' ∨ c = '\n' ∨ c = '\r' ∨ c = '\t' then some (.between, tokens)
  else if c = '"' then some (.inString [], tokens)
  else if c ∈ ['[', ']', '\x7b', '\x7d', ',', ':'] then some (.between, .mark c :: tokens)
  else if c.isAlphanum ∨ c ∈ ['-', '+', '.'] then some (.inWord [c], tokens)
  else none

/-- Takes in one character. Words are kept with the last one first. -/
def Place.step (c : Char) (tokens : List Token) : Place → Option (Place × List Token)
  | .between => enter c tokens
  | .inWord text =>
    if c.isAlphanum ∨ c ∈ ['-', '+', '.'] then some (.inWord (c :: text), tokens)
    else enter c (.word (String.ofList text.reverse) :: tokens)
  | .inString text =>
    if c = '"' then some (.between, .str (String.ofList text.reverse) :: tokens)
    else if c = '\\' then some (.escaped text, tokens)
    else if c.toNat < 32 then none
    else some (.inString (c :: text), tokens)
  | .escaped text =>
    if c = 'u' then some (.inCode text none [], tokens)
    else (escapedBy? c).map fun e => (.inString (e :: text), tokens)
  | .inCode text high digits =>
    if digits.length < 3 then some (.inCode text high (c :: digits), tokens)
    else do
      let unit ← Text.digits? 16 (c :: digits).reverse
      return (← takeUnit text high unit, tokens)
  | .betweenHalves text high => if c = '\\' then some (.beforeHalf text high, tokens) else none
  | .beforeHalf text high => if c = 'u' then some (.inCode text (some high) [], tokens) else none

def tokensFrom (place : Place) (tokens : List Token) : List Char → Option (List Token)
  | [] =>
    match place with
    | .between => some tokens.reverse
    | .inWord text => some (.word (String.ofList text.reverse) :: tokens).reverse
    | _ => none
  | c :: cs =>
    match place.step c tokens with
    | some (place, tokens) => tokensFrom place tokens cs
    | none => none

def tokens? (s : String) : Option (List Token) := tokensFrom .between [] s.toList

end LedBench.Json
