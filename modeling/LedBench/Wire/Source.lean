namespace LedBench.Wire

structure Field where
  name : String
  /-- It has a value of its own when a record in list form ends before it. -/
  defaulted : Bool := false
  deriving DecidableEq, Repr

/-- The fields of a record, in order, and whether it refuses members of other names. -/
structure RecordForm where
  fields : List Field
  closed : Bool := false
  deriving DecidableEq, Repr

/-- What stands before a member of a record or names a choice. -/
inductive Key where
  | name (s : String)
  /-- A number, which stands for the field or choice at that place. -/
  | index (n : Nat)
  | other
  deriving DecidableEq, Repr

namespace RecordForm

/-- The key stands for the field at place `i`. -/
def matchesAt (i : Nat) (f : Field) : Key → Bool
  | .name s => s = f.name
  | .index n => n = i
  | .other => false

/-- The key may stand before a member of the record. -/
def admits (form : RecordForm) : Key → Bool
  | .name s => !form.closed || form.fields.any (·.name = s)
  | .index n => !form.closed || n < form.fields.length
  | .other => false

/-- The values given for each field. A field given twice or a member that the record does not admit
spoils it. -/
def collect {ν : Type} (form : RecordForm) (members : List (Key × ν)) :
    Option (List (Option ν)) :=
  if members.all fun (k, _) => form.admits k then
    form.fields.zipIdx.mapM fun (f, i) =>
      match members.filter fun (k, _) => matchesAt i f k with
      | [] => some none
      | [(_, v)] => some (some v)
      | _ => none
  else none

/-- The values of a record written as a list, which may end before fields that have a value of
their own. -/
def ofItems {ν : Type} (form : RecordForm) (items : List ν) : Option (List (Option ν)) :=
  if items.length ≤ form.fields.length ∧ (form.fields.drop items.length).all (·.defaulted) then
    some (items.map some ++ List.replicate (form.fields.length - items.length) none)
  else none

end RecordForm

/-- How the values `ν` of a data format are taken. Each function answers none for a value that
cannot be taken that way. -/
class Source (ν : Type) where
  text? : ν → Option String
  nat? : ν → Option Nat
  bool? : ν → Option Bool
  optional? : ν → Option (Option ν)
  items? : ν → Option (List ν)
  members? : RecordForm → ν → Option (List (Option ν))
  choice? : ν → Option Key

variable {ν α : Type} [Source ν]

def byte? (v : ν) : Option UInt8 := do
  let n ← Source.nat? v
  if n < UInt8.size then some (UInt8.ofNat n) else none

def word16? (v : ν) : Option UInt16 := do
  let n ← Source.nat? v
  if n < UInt16.size then some (UInt16.ofNat n) else none

def word64? (v : ν) : Option UInt64 := do
  let n ← Source.nat? v
  if n < UInt64.size then some (UInt64.ofNat n) else none

def list? (read : ν → Option α) (v : ν) : Option (List α) := do
  (← Source.items? v).mapM read

omit [Source ν] in
def required (slot : Option ν) (read : ν → Option α) : Option α := slot.bind read

omit [Source ν] in
/-- A field that stands for `value` when it is not given. -/
def defaulting (value : α) (slot : Option ν) (read : ν → Option α) : Option α :=
  match slot with
  | none => some value
  | some v => read v

/-- A field that may be absent, not given or given as nothing. -/
def optional (slot : Option ν) (read : ν → Option α) : Option (Option α) :=
  match slot with
  | none => some none
  | some v =>
    match Source.optional? v with
    | none => none
    | some none => some none
    | some (some v) => (read v).map some

end LedBench.Wire
