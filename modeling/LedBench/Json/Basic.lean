import LedBench.Text.Digits

namespace LedBench

/-- A JSON value. Whole numbers from 0 to the largest 64-bit number are apart from all others, which
are kept as they are written. The members of an object keep their order. -/
inductive Json where
  | null
  | bool (b : Bool)
  | nat (n : Nat)
  | number (text : String)
  | str (s : String)
  | arr (items : List Json)
  | obj (members : List (String × Json))
  deriving Repr, Inhabited

namespace Json

/-- How a character stands inside a string: quote, backslash and controls behind a backslash. -/
def escapedChar (c : Char) : List Char :=
  if c = '"' then ['\\', '"']
  else if c = '\\' then ['\\', '\\']
  else if c = '\x08' then ['\\', 'b']
  else if c = '\x0c' then ['\\', 'f']
  else if c = '\n' then ['\\', 'n']
  else if c = '\r' then ['\\', 'r']
  else if c = '\t' then ['\\', 't']
  else if c.toNat < 32 then ['\\', 'u'] ++ Text.hexDigits 4 c.toNat
  else [c]

def quoteText (s : String) : String := String.ofList ('"' :: s.toList.flatMap escapedChar ++ ['"'])

mutual
def compact : Json → String
  | .null => "null"
  | .bool b => if b then "true" else "false"
  | .nat n => toString n
  | .number t => t
  | .str s => quoteText s
  | .arr items => "[" ++ compactItems items ++ "]"
  | .obj members => "\x7b" ++ compactMembers members ++ "\x7d"

def compactItems : List Json → String
  | [] => ""
  | [v] => v.compact
  | v :: w :: rest => v.compact ++ "," ++ compactItems (w :: rest)

def compactMembers : List (String × Json) → String
  | [] => ""
  | [(k, v)] => quoteText k ++ ":" ++ v.compact
  | (k, v) :: m :: rest => quoteText k ++ ":" ++ v.compact ++ "," ++ compactMembers (m :: rest)
end

/-- The start of a line at a nesting depth: two blanks for each level. -/
def margin (depth : Nat) : String := "\n" ++ String.ofList (List.replicate (2 * depth) ' ')

mutual
/-- The value with each item and member on a line of its own. -/
def indented (depth : Nat) : Json → String
  | .arr [] => "[]"
  | .arr (v :: rest) => "[" ++ indentedItems (depth + 1) (v :: rest) ++ margin depth ++ "]"
  | .obj [] => "\x7b\x7d"
  | .obj (m :: rest) =>
    "\x7b" ++ indentedMembers (depth + 1) (m :: rest) ++ margin depth ++ "\x7d"
  | .null => "null"
  | .bool b => if b then "true" else "false"
  | .nat n => toString n
  | .number t => t
  | .str s => quoteText s

def indentedItems (depth : Nat) : List Json → String
  | [] => ""
  | [v] => margin depth ++ v.indented depth
  | v :: w :: rest => margin depth ++ v.indented depth ++ "," ++ indentedItems depth (w :: rest)

def indentedMembers (depth : Nat) : List (String × Json) → String
  | [] => ""
  | [(k, v)] => margin depth ++ quoteText k ++ ": " ++ v.indented depth
  | (k, v) :: m :: rest =>
    margin depth ++ quoteText k ++ ": " ++ v.indented depth ++ "," ++
      indentedMembers depth (m :: rest)
end

/-- The value as it is written to a file. -/
def pretty (v : Json) : String := v.indented 0

end Json

end LedBench
