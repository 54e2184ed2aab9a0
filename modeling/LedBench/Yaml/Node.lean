import LedBench.Yaml.Token

namespace LedBench.Yaml

/-- A tree in which an alias stays as a number: it may stand inside the very node that it means. -/
inductive Node where
  | scalar (tag : Option String) (style : Style) (text : String)
  | sequence (tag : Option String) (items : List Node)
  | mapping (tag : Option String) (entries : List (Node × Node))
  | alias (number : Nat)
  deriving Repr, Inhabited

/-- What stands where nothing is written. -/
def Node.nothing : Node := .scalar none .plain ""

/-- A node that aliases can stand for. -/
structure Anchored where
  number : Nat
  node : Node
  deriving Repr

structure Document where
  root : Node
  anchors : List Anchored
  deriving Repr

/-- The node that an alias stands for: of the nodes with its number, the last. -/
def Document.anchored? (d : Document) (number : Nat) : Option Node :=
  (d.anchors.reverse.find? (·.number = number)).map (·.node)

/-- Tokens that are still to be read, and what the ones before them have fixed. -/
structure Reading where
  tokens : List Token
  /-- Tag handles and what they stand for. -/
  handles : List (String × String)
  /-- The number that each name of an anchor has now. -/
  numbers : List (String × Nat) := []
  anchors : Array Anchored := #[]

abbrev ReadM := StateT Reading Option

namespace Reading

def peek : ReadM (Option Token) := return (← get).tokens.head?

def skip : ReadM Unit := modify fun r => { r with tokens := r.tokens.drop 1 }

def accept (t : Token) : ReadM Bool := do
  if (← peek) = some t then
    skip
    return true
  return false

def expect (t : Token) : ReadM Unit := do
  if !(← accept t) then failure

def before (ts : List Token) : ReadM Bool := return (← peek).any (ts.contains ·)

def tagOf (handle suffix : String) : ReadM String := do
  if handle.isEmpty then return suffix
  match (← get).handles.lookup handle with
  | some stem => return stem ++ suffix
  | none => failure

def anchor? : ReadM (Option String) := do
  match ← peek with
  | some (.anchor name) =>
    skip
    return some name
  | _ => return none

def tag? : ReadM (Option String) := do
  match ← peek with
  | some (.tag handle suffix) =>
    skip
    some <$> tagOf handle suffix
  | _ => return none

/-- An anchor and a tag, in either order. -/
def properties : ReadM (Option String × Option String) := do
  match ← anchor? with
  | some name => return (some name, ← tag?)
  | none =>
    let tag ← tag?
    return (← anchor?, tag)

/-- Gives an anchor the number of names that there are already, and keeps a place for its node. -/
def enter (name : Option String) : ReadM (Option Nat) := do
  match name with
  | none => return none
  | some name =>
    let r ← get
    let number := r.numbers.length
    set { r with
      numbers := (name, number) :: r.numbers.filter (·.1 ≠ name)
      anchors := r.anchors.push ⟨number, .nothing⟩ }
    return some r.anchors.size

/-- Puts a node in the place that was kept for it. -/
def keep (place : Option Nat) (n : Node) : ReadM Node := do
  match place with
  | none => return n
  | some i =>
    modify fun r => { r with anchors := r.anchors.modify i fun a => { a with node := n } }
    return n

mutual
/-- A node. Block collections are taken only in a block, and items with no collection around them
only as the value of a key. -/
def node (block ofKey : Bool) : Nat → ReadM Node
  | 0 => failure
  | fuel + 1 => do
    match ← peek with
    | some (.alias name) =>
      skip
      match (← get).numbers.lookup name with
      | some number => return .alias number
      | none => failure
    | _ =>
      let (name, tag) ← properties
      match ← peek with
      | some (.scalar style text) =>
        skip
        let tag := if tag = some "!" then none else tag
        keep (← enter name) (.scalar tag style text)
      | some .item =>
        if ofKey then
          let place ← enter name
          keep place (.sequence tag (← bareItems fuel))
        else absent name tag
      | some .flowSequence =>
        skip
        let place ← enter name
        keep place (.sequence tag (← flowItems true fuel))
      | some .flowMapping =>
        skip
        let place ← enter name
        keep place (.mapping tag (← flowEntries true fuel))
      | some .blockSequence =>
        if block then
          skip
          let place ← enter name
          keep place (.sequence tag (← items fuel))
        else absent name tag
      | some .blockMapping =>
        if block then
          skip
          let place ← enter name
          keep place (.mapping tag (← entries fuel))
        else absent name tag
      | _ => absent name tag

/-- A node of which only an anchor or a tag is written. -/
def absent (name tag : Option String) : ReadM Node := do
  if name.isNone && tag.isNone then failure
  keep (← enter name) (.scalar tag .plain "")

def items : Nat → ReadM (List Node)
  | 0 => failure
  | fuel + 1 => do
    if ← accept .item then
      let first ← if ← before [.item, .blockEnd] then pure .nothing else node true false fuel
      return first :: (← items fuel)
    expect .blockEnd
    return []

/-- Items without a block of their own. -/
def bareItems : Nat → ReadM (List Node)
  | 0 => failure
  | fuel + 1 => do
    if ← accept .item then
      let first ← if ← before [.item, .key, .value, .blockEnd] then pure .nothing
        else node true false fuel
      return first :: (← bareItems fuel)
    return []

/-- The node after a key or value mark in a block. -/
def blockPart : Nat → ReadM Node
  | 0 => failure
  | fuel + 1 => do
    if ← before [.key, .value, .blockEnd] then return .nothing
    node true true fuel

def entries : Nat → ReadM (List (Node × Node))
  | 0 => failure
  | fuel + 1 => do
    if ← accept .blockEnd then return []
    expect .key
    let k ← blockPart fuel
    let v ← if ← accept .value then blockPart fuel else pure .nothing
    return (k, v) :: (← entries fuel)

/-- The value of a key in a flow collection that ends with `last`. -/
def flowValue (last : Token) : Nat → ReadM Node
  | 0 => failure
  | fuel + 1 => do
    if ← accept .value then
      if ← before [.comma, last] then return .nothing
      node false false fuel
    else return .nothing

/-- The items of a flow sequence up to its end. A key among them starts a mapping of one entry; if
nothing follows the key, the token after it is passed over. -/
def flowItems (first : Bool) : Nat → ReadM (List Node)
  | 0 => failure
  | fuel + 1 => do
    if ← accept .flowSequenceEnd then return []
    if !first then expect .comma
    if ← accept .flowSequenceEnd then return []
    let item ←
      if ← accept .key then
        let k ←
          if ← before [.value, .comma, .flowSequenceEnd] then do
            skip
            pure .nothing
          else node false false fuel
        pure (.mapping none [(k, ← flowValue .flowSequenceEnd fuel)])
      else node false false fuel
    return item :: (← flowItems false fuel)

/-- The entries of a flow mapping up to its end. A node without a key mark is a key with no value. -/
def flowEntries (first : Bool) : Nat → ReadM (List (Node × Node))
  | 0 => failure
  | fuel + 1 => do
    if ← accept .flowMappingEnd then return []
    if !first then expect .comma
    if ← accept .flowMappingEnd then return []
    let entry ←
      if ← accept .key then
        let k ←
          if ← before [.value, .comma, .flowMappingEnd] then pure .nothing
          else node false false fuel
        pure (k, ← flowValue .flowMappingEnd fuel)
      else pure (← node false false fuel, .nothing)
    return entry :: (← flowEntries false fuel)
end

/-- The handles that need no directive. -/
def standardHandles : List (String × String) := [("!", "!"), ("!!", "tag:yaml.org,2002:")]

/-- Directives in front of a document. There may be one version, 1.1 or 1.2, and each handle may be
given once. Answers whether there were any. -/
def directives (versioned : Bool) : List Token → ReadM Bool
  | .version major minor :: rest => do
    if versioned || major ≠ 1 || (minor ≠ 1 && minor ≠ 2) then failure
    skip
    let _ ← directives true rest
    return true
  | .handle name stem :: rest => do
    if ((← get).handles.lookup name).isSome then failure
    skip
    modify fun r => { r with handles := (name, stem) :: r.handles }
    let _ ← directives versioned rest
    return true
  | _ => return false

/-- A document with its marks. A document that starts without one has some content. -/
def document (fuel : Nat) : ReadM Node := do
  let directed ← directives false (← get).tokens
  modify fun r => { r with handles := r.handles ++ standardHandles }
  if ← accept .documentStart then
    match ← peek with
    | none | some .documentStart | some .documentEnd | some (.version _ _) | some (.handle _ _) =>
      return .nothing
    | _ => node true false fuel
  else if directed then failure
  else if (← peek).isNone then return .nothing
  else node true false fuel

end Reading

/-- Reads a text that holds one document. -/
def Document.parse? (text : String) : Option Document := do
  let tokens ← Token.scan? text
  let (root, r) ← (Reading.document (3 * tokens.length + 3)).run { tokens, handles := [] }
  if r.tokens.all (· = .documentEnd) then some { root, anchors := r.anchors.toList } else none

end LedBench.Yaml
