import LedBench.Json.Basic
import LedBench.Yaml.Written

namespace LedBench.Yaml

/-- The value of a scalar; none for a collection that has members. The names of members are taken
to need no quotes. -/
def scalar? (indent : Nat) : Json → Option String
  | .null => some "null"
  | .bool b => some (if b then "true" else "false")
  | .nat n => some (toString n)
  | .number t => some t
  | .str s => some (Written.ofText indent s)
  | .arr [] => some "[]"
  | .obj [] => some "\x7b\x7d"
  | _ => none

def endLine (s : String) : String :=
  if s.toList.getLast?.any isBreak then s else s ++ "\n"

def margin (indent : Nat) : String := String.ofList (List.replicate indent ' ')

mutual
/-- A value after the key of a member at column `indent`. -/
def afterKey (indent : Nat) : Json → String
  | .arr (v :: rest) => "\n" ++ margin indent ++ items indent (v :: rest)
  | .obj (m :: rest) => "\n" ++ margin (indent + 2) ++ members (indent + 2) (m :: rest)
  | v => " " ++ endLine ((scalar? (indent + 2) v).getD "")

/-- A value after the dash of an item at column `indent`. -/
def afterDash (indent : Nat) : Json → String
  | .arr (v :: rest) => " " ++ items (indent + 2) (v :: rest)
  | .obj (m :: rest) => " " ++ members (indent + 2) (m :: rest)
  | v => " " ++ endLine ((scalar? (indent + 2) v).getD "")

/-- The items of a list at column `indent`, which the first of them has been brought to. -/
def items (indent : Nat) : List Json → String
  | [] => ""
  | [v] => "-" ++ afterDash indent v
  | v :: w :: rest => "-" ++ afterDash indent v ++ margin indent ++ items indent (w :: rest)

/-- The members of a record at column `indent`, which the first of them has been brought to. -/
def members (indent : Nat) : List (String × Json) → String
  | [] => ""
  | [(k, v)] => k ++ ":" ++ afterKey indent v
  | (k, v) :: m :: rest =>
    k ++ ":" ++ afterKey indent v ++ margin indent ++ members indent (m :: rest)
end

/-- A value in block form; empty collections are written in flow form. -/
def render : Json → String
  | .arr (v :: rest) => items 0 (v :: rest)
  | .obj (m :: rest) => members 0 (m :: rest)
  | v => endLine ((scalar? 2 v).getD "")

end LedBench.Yaml
