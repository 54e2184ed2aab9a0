import LedBench.Yaml.Scalar

namespace LedBench.Yaml

/-- Indentation becomes brackets: a block collection starts with a token of its own and ends with
`blockEnd`. That a scalar is a key shows only at the colon after it, so the tokens `blockMapping`
and `key` are put in front of it then. -/
inductive Token where
  /-- The version that a document says it is written for. -/
  | version (major minor : Nat)
  /-- A handle of tags and what it stands for. -/
  | handle (name stem : String)
  | documentStart
  | documentEnd
  | blockSequence
  | blockMapping
  | blockEnd
  | flowSequence
  | flowSequenceEnd
  | flowMapping
  | flowMappingEnd
  | item
  | comma
  | key
  | value
  | anchor (name : String)
  | alias (name : String)
  | tag (handle suffix : String)
  | scalar (style : Style) (text : String)
  deriving DecidableEq, Repr

def isNameChar (c : Char) : Bool := c.isAlphanum || c = '_' || c = '-'

/-- The name of an anchor, after its indicator. -/
def anchorName? (c : Cursor) : Option (String × Cursor) :=
  let (name, c) := c.takeWhile isNameChar
  let ends := endsWord c.head? || c.head?.any ("?:,]\x7d%@\x60".toList.contains ·)
  if name.isEmpty || !ends then none else some (String.ofList name, c)

def isTagChar (verbatim : Bool) (c : Char) : Bool :=
  isNameChar c || ";/?:@&=+$.!~*\x27()".toList.contains c ||
    (verbatim && (c = ',' || c = '[' || c = ']'))

/-- A byte written as two digits behind a percent sign. -/
def escapedByte? : List Char → Option Nat
  | '%' :: a :: b :: _ => do return (← Text.digitValue? 16 a) * 16 + (← Text.digitValue? 16 b)
  | _ => none

/-- How many bytes follow the first byte of a character. -/
def byteTail? (b : Nat) : Option Nat :=
  if b < 0x80 then some 0
  else if b / 0x20 = 6 then some 1
  else if b / 0x10 = 14 then some 2
  else if b / 0x08 = 30 then some 3
  else none

/-- Percent signs with so many further bytes of a character. Bytes are kept as the characters of the
same number. -/
def escapedTail? : Nat → Cursor → Option (List Char × Cursor)
  | 0, c => some ([], c)
  | n + 1, c => do
    let b ← escapedByte? c.rest
    if b / 0x40 ≠ 2 then none
    let (more, c) ← escapedTail? n (c.advance 3)
    return (Char.ofNat b :: more, c)

def tagChars (verbatim : Bool) : Nat → Cursor → Option (List Char × Cursor)
  | 0, c => some ([], c)
  | fuel + 1, c =>
    match c.head? with
    | some '%' => do
      let b ← escapedByte? c.rest
      let (tail, c) ← escapedTail? (← byteTail? b) (c.advance 3)
      let (more, c) ← tagChars verbatim fuel c
      return (Char.ofNat b :: tail ++ more, c)
    | some x =>
      if isTagChar verbatim x then do
        let (more, c) ← tagChars verbatim fuel (c.advance 1)
        return (x :: more, c)
      else some ([], c)
    | none => some ([], c)

def tagText? (verbatim : Bool) (c : Cursor) : Option (List Char × Cursor) :=
  tagChars verbatim c.rest.length c

/-- What an exclamation mark, a name and perhaps another mark are. -/
def tagHandle? (c : Cursor) : Option (List Char × Cursor) :=
  if c.starts '!' then
    let (name, c) := (c.advance 1).takeWhile isNameChar
    if c.starts '!' then some ('!' :: name ++ ['!'], c.advance 1) else some ('!' :: name, c)
  else none

/-- A tag between angle brackets, which needs no handle. -/
def verbatimTag? (c : Cursor) : Option (Token × Cursor) := do
  let (suffix, c) ← tagText? true (c.advance 2)
  if suffix.isEmpty || !c.starts '>' then none
  return (.tag "" (String.ofList suffix), c.advance 1)

/-- A tag with a handle of two marks, or of one mark and then a suffix, which may be empty. -/
def shorthandTag? (c : Cursor) : Option (Token × Cursor) := do
  let (handle, c) ← tagHandle? c
  let (suffix, c) ← tagText? false c
  if handle.length > 1 && handle.getLast? = some '!' then
    if suffix.isEmpty then none
    return (.tag (String.ofList handle) (String.ofList suffix), c)
  let suffix := handle.drop 1 ++ suffix
  if suffix.isEmpty then return (.tag "" "!", c)
  return (.tag "!" (String.ofList suffix), c)

/-- A tag, which ends as a word does or before a comma of a flow collection. -/
def tag? (flow : Bool) (c : Cursor) : Option (Token × Cursor) := do
  let (t, c) ← if c.peek? 1 = some '<' then verbatimTag? c else shorthandTag? c
  if endsWord c.head? || (flow && c.starts ',') then some (t, c) else none

/-- A number of at most nine digits. -/
def versionNumber? (c : Cursor) : Option (Nat × Cursor) := do
  let (digits, c) := c.takeWhile Char.isDigit
  if digits.length > 9 then none
  return (← Text.digits? 10 digits, c)

def versionDirective? (c : Cursor) : Option (Token × Cursor) := do
  let (major, c) ← versionNumber? (c.skipWhile isGap)
  if !c.starts '.' then none
  let (minor, c) ← versionNumber? (c.advance 1)
  return (.version major minor, c)

def handleDirective? (c : Cursor) : Option (Token × Cursor) := do
  let (handle, c) ← tagHandle? (c.skipWhile isGap)
  if handle ≠ ['!'] && handle.getLast? ≠ some '!' then none
  if !c.head?.any isGap then none
  let (stem, c) ← tagText? true (c.skipWhile isGap)
  if stem.isEmpty || !endsWord c.head? then none
  return (.handle (String.ofList handle) (String.ofList stem), c)

/-- A line that starts with a percent sign. -/
def directive? (c : Cursor) : Option (Token × Cursor) := do
  let (name, c) := (c.advance 1).takeWhile isNameChar
  if !endsWord c.head? then none
  let (t, c) ←
    if name = "YAML".toList then versionDirective? c
    else if name = "TAG".toList then handleDirective? c
    else none
  return (t, (← c.endOfLine?).skipBreak)

/-- A token that a colon may turn into a key. -/
structure KeyCandidate where
  place : Nat
  index : Nat
  line : Nat
  column : Nat
  /-- Nothing but a key may stand there. -/
  required : Bool
  deriving Repr

/-- A text that is read up to a place. -/
structure Scan where
  cursor : Cursor
  tokens : Array Token := #[]
  /-- The columns of the open block collections, innermost first. -/
  columns : List Nat := []
  /-- What may be a key in the innermost flow collection, or outside all. -/
  candidate : Option KeyCandidate := none
  /-- The same for the collections around it, innermost first; so many are open. -/
  outer : List (Option KeyCandidate) := []
  /-- A key may start here. -/
  keyAllowed : Bool := true

namespace Scan

def inFlow (s : Scan) : Bool := !s.outer.isEmpty

/-- The first column inside the innermost block collection. -/
def margin (s : Scan) : Nat :=
  match s.columns with
  | [] => 0
  | column :: _ => column + 1

def push (s : Scan) (t : Token) : Scan := { s with tokens := s.tokens.push t }

/-- The state after a token that ends before `cursor`. -/
def emit (s : Scan) (t : Token) (cursor : Cursor) : Scan := { s.push t with cursor }

/-- A candidate that no colon followed in time is none any more: a key is written on one line, in
at most 1024 characters. None if it had to be a key. -/
def expired? (c : Cursor) : Option KeyCandidate → Option (Option KeyCandidate)
  | none => some none
  | some k =>
    if k.line < c.line || k.index + 1024 < c.index then if k.required then none else some none
    else some (some k)

def expire? (s : Scan) : Option Scan := do
  return { s with
    candidate := ← expired? s.cursor s.candidate
    outer := ← s.outer.mapM (expired? s.cursor) }

def drop? (s : Scan) : Option Scan :=
  if s.candidate.any (·.required) then none else some { s with candidate := none }

/-- Makes the next token the candidate, where a key may start. -/
def mark? (s : Scan) : Option Scan :=
  if s.keyAllowed then do
    let s ← s.drop?
    return { s with candidate := some {
      place := s.tokens.size
      index := s.cursor.index
      line := s.cursor.line
      column := s.cursor.column
      required := !s.inFlow && s.columns.head? = some s.cursor.column } }
  else some s

/-- Opens a block collection at a column, if none is open there or further right; its token stands
before the one at `place`. -/
def openBlock (s : Scan) (column place : Nat) (t : Token) : Scan :=
  if s.inFlow || column < s.margin then s
  else { s with columns := column :: s.columns, tokens := s.tokens.insertIdxIfInBounds place t }

/-- Closes the block collections whose column is `floor` or further right. -/
def closeBlocks (s : Scan) (floor : Nat) : Scan :=
  if s.inFlow then s
  else
    let (closed, columns) := s.columns.span (floor ≤ ·)
    { s with columns, tokens := s.tokens ++ Array.replicate closed.length .blockEnd }

/-- Skips blanks, comments and line breaks before a token. Outside flow collections, tabs may not
stand where a key may start, and a key may start on a new line. A byte order mark may start a line,
where it counts as a column. -/
def skipGaps : Nat → Scan → Scan
  | 0, s => s
  | fuel + 1, s =>
    let c := s.cursor
    let c := if c.column = 0 && c.starts byteOrderMark then c.advance 1 else c
    let c := c.skipWhile fun x => x = ' ' || ((s.inFlow || !s.keyAllowed) && x = '\t')
    let c := if c.starts '#' then c.skipWhile (!isBreak ·) else c
    match c.lineBreak? with
    | some (_, c) => skipGaps fuel { s with cursor := c, keyAllowed := s.keyAllowed || !s.inFlow }
    | none => { s with cursor := c }

/-- A line that belongs to no collection: all blocks are closed and no key may start. -/
def atMargin? (s : Scan) : Option Scan := do
  return { ← (s.closeBlocks 0).drop? with keyAllowed := false }

def documentMark? (s : Scan) (t : Token) : Option Scan := do
  return (← s.atMargin?).emit t (s.cursor.advance 3)

def directive? (s : Scan) : Option Scan := do
  let s ← s.atMargin?
  let (t, c) ← Yaml.directive? s.cursor
  return s.emit t c

def openFlow? (s : Scan) (t : Token) : Option Scan := do
  let s ← s.mark?
  return { s.emit t (s.cursor.advance 1) with
    candidate := none
    outer := s.candidate :: s.outer
    keyAllowed := true }

def closeFlow? (s : Scan) (t : Token) : Option Scan := do
  let s ← s.drop?
  return { s.emit t (s.cursor.advance 1) with
    candidate := s.outer.head?.join
    outer := s.outer.drop 1
    keyAllowed := false }

def comma? (s : Scan) : Option Scan := do
  return { (← s.drop?).emit .comma (s.cursor.advance 1) with keyAllowed := true }

/-- A mark that may open a block collection where it stands. -/
def blockMark? (s : Scan) (collection t : Token) : Option Scan := do
  if !s.inFlow && !s.keyAllowed then none
  let s ← (s.openBlock s.cursor.column s.tokens.size collection).drop?
  return s.emit t (s.cursor.advance 1)

def item? (s : Scan) : Option Scan := do
  return { ← s.blockMark? .blockSequence .item with keyAllowed := true }

def key? (s : Scan) : Option Scan := do
  return { ← s.blockMark? .blockMapping .key with keyAllowed := !s.inFlow }

/-- A colon. It makes the candidate a key; without one it stands for a value with no key. -/
def value? (s : Scan) : Option Scan := do
  let next := s.cursor.advance 1
  match s.candidate with
  | some k =>
    let s := { s with tokens := s.tokens.insertIdxIfInBounds k.place .key }
    let s := s.openBlock k.column k.place .blockMapping
    return { s.emit .value next with candidate := none, keyAllowed := false }
  | none => do
    if !s.inFlow && !s.keyAllowed then none
    let s := s.openBlock s.cursor.column s.tokens.size .blockMapping
    return { s.emit .value next with keyAllowed := !s.inFlow }

def anchor? (s : Scan) (t : String → Token) : Option Scan := do
  let s ← s.mark?
  let (name, c) ← anchorName? (s.cursor.advance 1)
  return { s.emit (t name) c with keyAllowed := false }

def tag? (s : Scan) : Option Scan := do
  let s ← s.mark?
  let (t, c) ← Yaml.tag? s.inFlow s.cursor
  return { s.emit t c with keyAllowed := false }

def block? (s : Scan) (style : Style) : Option Scan := do
  let s ← s.drop?
  let (text, c) ← Yaml.block? (style = .folded) s.margin s.cursor
  return { s.emit (.scalar style (String.ofList text)) c with keyAllowed := true }

def quoted? (s : Scan) (double : Bool) : Option Scan := do
  let s ← s.mark?
  let (text, c) ← Yaml.quoted? double s.cursor
  return { s.emit (.scalar .quoted (String.ofList text)) c with keyAllowed := false }

def plain? (s : Scan) : Option Scan := do
  let s ← s.mark?
  let (p, c) ← Yaml.plain? s.inFlow s.margin s.cursor
  return { s.emit (.scalar .plain (String.ofList p.text)) c with keyAllowed := p.broken }

/-- Plain text may start with this character, `next` being the one after it. -/
def startsPlain (flow : Bool) (c : Char) (next : Option Char) : Bool :=
  if isGap c || isBreak c then false
  else if c = '-' then true
  else if c = '?' || c = ':' then !flow && !endsWord next
  else !(",[]\x7b\x7d#&*!|>\x27\"%@\x60".toList.contains c)

/-- Reads the token that starts with `c`, `next` being the character after it. -/
def token? (s : Scan) (c : Char) (next : Option Char) : Option Scan :=
  if s.cursor.column = 0 && c = '%' then s.directive?
  else if s.cursor.atMark '-' then s.documentMark? .documentStart
  else if s.cursor.atMark '.' then s.documentMark? .documentEnd
  else if c = '[' then s.openFlow? .flowSequence
  else if c = '{' then s.openFlow? .flowMapping
  else if c = ']' then s.closeFlow? .flowSequenceEnd
  else if c = '}' then s.closeFlow? .flowMappingEnd
  else if c = ',' then s.comma?
  else if c = '-' && endsWord next then s.item?
  else if c = '?' && (s.inFlow || endsWord next) then s.key?
  else if c = ':' && (s.inFlow || endsWord next) then s.value?
  else if c = '*' then s.anchor? .alias
  else if c = '&' then s.anchor? .anchor
  else if c = '!' then s.tag?
  else if c = '|' && !s.inFlow then s.block? .literal
  else if c = '>' && !s.inFlow then s.block? .folded
  else if c = '\x27' then s.quoted? false
  else if c = '"' then s.quoted? true
  else if startsPlain s.inFlow c next then s.plain?
  else none

def tokens? : Nat → Scan → Option (List Token)
  | 0, _ => none
  | fuel + 1, s => do
    let s ← (s.skipGaps (s.cursor.rest.length + 1)).expire?
    let s := s.closeBlocks (s.cursor.column + 1)
    match s.cursor.rest with
    | [] => return (← (s.closeBlocks 0).drop?).tokens.toList
    | c :: rest => tokens? fuel (← s.token? c rest.head?)

end Scan

/-- The tokens of a text, if it keeps the rules for characters, indentation and the writing of
scalars. -/
def Token.scan? (text : String) : Option (List Token) :=
  let cs := text.toList
  if cs.all isAllowed then Scan.tokens? (cs.length + 1) { cursor := { rest := cs } } else none

end LedBench.Yaml
