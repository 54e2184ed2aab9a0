import LedBench.Wire.Source
import LedBench.Yaml.Kind
import LedBench.Yaml.Node

namespace LedBench.Yaml

open Wire

structure Place where
  document : Document
  node : Node

namespace Place

def onNode (p : Place) (n : Node) : Place := { p with node := n }

/-- The node itself, or the one that it is an alias for. -/
def target (p : Place) : Node :=
  match p.node with
  | .alias number => (p.document.anchored? number).getD .nothing
  | n => n

def coreTag (name : String) : String := "tag:yaml.org,2002:" ++ name

/-- A scalar whose text may be taken as a number or truth value: one without quotes, or a literal
block that is tagged so. -/
def bare? (tagName : String) (p : Place) : Option String :=
  match p.target with
  | .scalar _ .plain s => some s
  | .scalar tag .literal s => if tag = some (coreTag tagName) then some s else none
  | _ => none

def isBlank (p : Place) : Bool :=
  match p.target with
  | .scalar _ .plain s => s.isEmpty
  | _ => false

def text? (p : Place) : Option String :=
  match p.target with
  | .scalar _ _ s => some s
  | _ => none

/-- A value that may be absent: it is when an unquoted scalar says so, or one that is tagged as
null, which must say so. -/
def optional? (p : Place) : Option (Option Place) :=
  match p.target with
  | .scalar none .plain s => some (if s.isEmpty || isNullWord s then none else some p)
  | .scalar (some tag) .plain s =>
    if tag = coreTag "null" then if isNullWord s then some none else none else some (some p)
  | _ => some (some p)

def items? (p : Place) : Option (List Place) :=
  match p.target with
  | .sequence _ items => some (items.map p.onNode)
  | _ => if p.isBlank then some [] else none

def entries? (p : Place) : Option (List (Place × Place)) :=
  match p.target with
  | .mapping _ entries => some (entries.map fun (k, v) => (p.onNode k, p.onNode v))
  | _ => if p.isBlank then some [] else none

end Place

/-- Values whose type is wanted: any scalar is a text, an unquoted number a number. -/
instance : Source Place where
  text? := Place.text?
  nat? p := (p.bare? "int").bind fun s => unsigned? s.toList
  bool? p := (p.bare? "bool").bind boolWord?
  optional? := Place.optional?
  items? := Place.items?
  members? form p := do
    form.collect (← (← p.entries?).mapM fun (k, v) => do return (.name (← k.text?), v))
  choice? p := p.text?.map .name

/-- A place whose value has a type of its own. -/
structure Typed where
  place : Place

namespace Typed

/-- The type that a scalar has by its tag, or else by its text if it has no quotes. A tag must agree
with the text, and one that the application defines fits nothing here. -/
def kind? (t : Typed) : Option (Kind × String) :=
  match t.place.target with
  | .scalar none style s => some (if style = .plain then Kind.of s else .text, s)
  | .scalar (some tag) _ s =>
    if tag = Place.coreTag "bool" then (boolWord? s).map fun b => (.bool b, s)
    else if tag = Place.coreTag "int" then
      match Kind.of s with
      | .nat n => some (.nat n, s)
      | .negative n => some (.negative n, s)
      | _ => none
    else if tag = Place.coreTag "null" then if isNullWord s then some (.null, s) else none
    else if tag = Place.coreTag "float" then some (.real, s)
    else if tag.startsWith "!" then none
    else some (.text, s)
  | _ => none

/-- A tag that the application defines. -/
def isLocal (tag : Option String) : Bool := tag.any (·.startsWith "!")

def sequence? (t : Typed) : Option (List Typed) :=
  match t.place.target with
  | .sequence tag items => if isLocal tag then none else some (items.map fun n => ⟨t.place.onNode n⟩)
  | _ => none

def mapping? (t : Typed) : Option (List (Typed × Typed)) :=
  match t.place.target with
  | .mapping tag entries =>
    if isLocal tag then none
    else some (entries.map fun (k, v) => (⟨t.place.onNode k⟩, ⟨t.place.onNode v⟩))
  | _ => none

/-- A value in the place of a field's name or a choice's. -/
def key (t : Typed) : Key :=
  match t.kind? with
  | some (.text, s) => .name s
  | some (.nat n, _) => if n < UInt64.size then .index n else .other
  | _ => .other

end Typed

/-- Values that have a type of their own. Records are mappings, and sequences too. -/
instance : Source Typed where
  text? t :=
    match t.kind? with
    | some (.text, s) => some s
    | _ => none
  nat? t :=
    match t.kind? with
    | some (.nat n, _) => some n
    | some (.negative 0, _) => some 0
    | _ => none
  bool? t :=
    match t.kind? with
    | some (.bool b, _) => some b
    | _ => none
  optional? t :=
    match t.kind? with
    | some (.null, _) => some none
    | _ => some (some t)
  items? := Typed.sequence?
  members? form t :=
    match t.sequence? with
    | some items => form.ofItems items
    | none => do form.collect ((← t.mapping?).map fun (k, v) => (k.key, v))
  choice? t :=
    match t.mapping? with
    | some [(k, v)] =>
      match v.kind? with
      | some (.null, _) => some k.key
      | _ => none
    | some _ => none
    | none =>
      match t.kind? with
      | some (.text, s) => some (.name s)
      | _ => none

/-- The root of a text that holds one document. -/
def Place.parse? (text : String) : Option Place :=
  (Document.parse? text).map fun d => ⟨d, d.root⟩

end LedBench.Yaml
