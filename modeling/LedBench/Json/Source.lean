import LedBench.Json.Basic
import LedBench.Wire.Source

namespace LedBench.Json

open Wire

/-- A record is an object, or an array of its fields in order; a choice is a string, or an object
whose only member has that name and the value null. -/
instance : Source Json where
  text?
    | .str s => some s
    | _ => none
  nat?
    | .nat n => some n
    | _ => none
  bool?
    | .bool b => some b
    | _ => none
  optional?
    | .null => some none
    | v => some (some v)
  items?
    | .arr vs => some vs
    | _ => none
  members? form
    | .obj ms => form.collect (ms.map fun (k, v) => (.name k, v))
    | .arr vs => form.ofItems vs
    | _ => none
  choice?
    | .str s => some (.name s)
    | .obj [(k, .null)] => some (.name k)
    | _ => none

def entries? : Json → Option (List (String × Json))
  | .obj ms => some ms
  | _ => none

def orNull {α : Type} (write : α → Json) : Option α → Json
  | none => .null
  | some a => write a

def list {α : Type} (write : α → Json) (xs : List α) : Json := .arr (xs.map write)

def byte (b : UInt8) : Json := .nat b.toNat

def word16 (w : UInt16) : Json := .nat w.toNat

def word64 (w : UInt64) : Json := .nat w.toNat

end LedBench.Json
