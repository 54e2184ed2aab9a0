import LedBench.Text.Digits
import LedBench.Yaml.Cursor

namespace LedBench.Yaml

inductive Style where
  | plain
  | quoted
  | literal
  | folded
  deriving DecidableEq, Repr

/-- The white space between two words of a scalar that runs over lines. -/
structure Gap where
  /-- The blanks, if the gap is within a line. -/
  blanks : List Char := []
  /-- The line breaks; blanks around them do not count. -/
  breaks : List Char := []
  deriving Repr

/-- What a gap adds to the text: one line break reads as a space, and of more the first is
dropped. -/
def Gap.text (g : Gap) : List Char :=
  match g.breaks with
  | [] => g.blanks
  | ['\n'] => [' ']
  | '\n' :: more => more
  | breaks => breaks

namespace Cursor

/-- Line breaks, each with the blanks after it. None if a tab stands left of `margin`. -/
def breaks? (margin : Nat) : Nat → Cursor → Option (List Char × Cursor)
  | 0, c => some ([], c)
  | fuel + 1, c =>
    match c.lineBreak? with
    | none => some ([], c)
    | some (b, c) => do
      let (blanks, next) := c.takeWhile isGap
      if (blanks.take (margin - c.column)).contains '\t' then none
      let (more, c) ← breaks? margin fuel next
      return (b :: more, c)

def gap? (margin : Nat) (c : Cursor) : Option (Gap × Cursor) := do
  let (blanks, c) := c.takeWhile isGap
  let (breaks, c) ← breaks? margin c.rest.length c
  return ({ blanks, breaks }, c)

end Cursor

/-- A run of quoted text within a line. -/
structure QuotedRun where
  text : List Char
  /-- The run ends with a line break behind a backslash, which does not count as white space. -/
  joined : Bool := false

def QuotedRun.push (c : Char) (r : QuotedRun) : QuotedRun := { r with text := c :: r.text }

/-- What a character behind a backslash stands for. -/
def escapes : List (Char × Char) :=
  [('0', '\x00'), ('a', '\x07'), ('b', '\x08'), ('t', '\t'), ('\t', '\t'), ('n', '\n'),
    ('v', '\x0b'), ('f', '\x0c'), ('r', '\r'), ('e', '\x1b'), (' ', ' '), ('"', '"'), ('/', '/'),
    ('\\', '\\'), ('N', '\u0085'), ('_', '\u00a0'), ('L', '\u2028'), ('P', '\u2029')]

/-- How many digits of a code point follow a character behind a backslash. -/
def escapeWidths : List (Char × Nat) := [('x', 2), ('u', 4), ('U', 8)]

/-- The character whose code point is written by exactly `width` digits. -/
def codePoint? (width : Nat) (cs : List Char) : Option Char := do
  let digits := cs.take width
  let n ← if digits.length = width then Text.digits? 16 digits else none
  if n.isValidChar then some (Char.ofNat n) else none

/-- Text between single quotes up to white space or a quote that stands alone. -/
def singleRun : Nat → Cursor → Option (QuotedRun × Cursor)
  | 0, c => some (⟨[], false⟩, c)
  | fuel + 1, c =>
    match c.rest with
    | [] => some (⟨[], false⟩, c)
    | '\x27' :: '\x27' :: _ => (singleRun fuel (c.advance 2)).map fun (r, c) => (r.push '\x27', c)
    | x :: _ =>
      if isGap x || isBreak x || x = '\x27' then some (⟨[], false⟩, c)
      else (singleRun fuel (c.advance 1)).map fun (r, c) => (r.push x, c)

/-- Text between double quotes up to white space or a quote, with what stands behind backslashes
resolved. -/
def doubleRun : Nat → Cursor → Option (QuotedRun × Cursor)
  | 0, c => some (⟨[], false⟩, c)
  | fuel + 1, c =>
    match c.rest with
    | [] => some (⟨[], false⟩, c)
    | '\\' :: tail =>
      match (c.advance 1).lineBreak? with
      | some (_, c) => some (⟨[], true⟩, c)
      | none => do
        let letter ← tail.head?
        match escapes.lookup letter with
        | some x => (doubleRun fuel (c.advance 2)).map fun (r, c) => (r.push x, c)
        | none => do
          let width ← escapeWidths.lookup letter
          let x ← codePoint? width (tail.drop 1)
          (doubleRun fuel (c.advance (2 + width))).map fun (r, c) => (r.push x, c)
    | x :: _ =>
      if isGap x || isBreak x || x = '"' then some (⟨[], false⟩, c)
      else (doubleRun fuel (c.advance 1)).map fun (r, c) => (r.push x, c)

/-- Quoted text from after its first quote to after its last. It must end before the text does, and
no line of it may look like the start or end of a document. -/
def quotedLines (run : Cursor → Option (QuotedRun × Cursor)) (quote : Char) :
    Nat → Cursor → Option (List Char × Cursor)
  | 0, _ => none
  | fuel + 1, c =>
    if c.atDocumentMark || c.rest.isEmpty then none
    else do
      let (r, c) ← run c
      if c.starts quote then return (r.text, c.advance 1)
      let (gap, c) ← c.gap? 0
      let (more, c) ← quotedLines run quote fuel c
      return (r.text ++ (if r.joined then gap.breaks else gap.text) ++ more, c)

/-- Reads quoted text, the place being that of its first quote. -/
def quoted? (double : Bool) (c : Cursor) : Option (List Char × Cursor) :=
  let fuel := c.rest.length
  let c := c.advance 1
  if double then quotedLines (doubleRun fuel) '"' fuel c
  else quotedLines (singleRun fuel) '\x27' fuel c

/-- A character that has a meaning of its own inside flow collections. -/
def isFlowMark (c : Char) : Bool := c = ',' || c = '[' || c = ']' || c = '{' || c = '}'

/-- A word of plain text. It ends before a colon at the end of a word, and in a flow collection
before its marks; there a colon before a mark is refused. -/
def plainWord? (flow : Bool) : List Char → Option (List Char)
  | [] => some []
  | c :: rest =>
    if isGap c || isBreak c then some []
    else if flow && c = ':' && rest.head?.any (fun d => d = '?' || isFlowMark d) then none
    else if c = ':' && endsWord rest.head? then some []
    else if flow && isFlowMark c then some []
    else (plainWord? flow rest).map (c :: ·)

structure PlainText where
  text : List Char
  /-- Line breaks follow the last word. -/
  broken : Bool

/-- Plain text from the start of a word, after the gap before it. -/
def plainWords (flow : Bool) (margin : Nat) : Nat → Gap → Cursor → Option (PlainText × Cursor)
  | 0, _, _ => none
  | fuel + 1, gap, c =>
    if c.atDocumentMark || c.starts '#' then some (⟨[], !gap.breaks.isEmpty⟩, c)
    else do
      let word ← plainWord? flow c.rest
      if word.isEmpty then return (⟨[], !gap.breaks.isEmpty⟩, c)
      let text := gap.text ++ word
      let (next, c) ← (c.advance word.length).gap? margin
      if next.blanks.isEmpty && next.breaks.isEmpty then return (⟨text, false⟩, c)
      if !flow && c.column < margin then return (⟨text, !next.breaks.isEmpty⟩, c)
      let (more, c) ← plainWords flow margin fuel next c
      return ({ more with text := text ++ more.text }, c)

/-- Reads plain text. Outside flow collections it ends before a line that starts left of
`margin`. -/
def plain? (flow : Bool) (margin : Nat) (c : Cursor) : Option (PlainText × Cursor) :=
  plainWords flow margin (c.rest.length + 1) {} c

/-- What becomes of the line breaks at the end of a block. -/
inductive Chomping where
  | strip
  | clip
  | keep
  deriving DecidableEq, Repr

def Chomping.ofMark? : Option Char → Option Chomping
  | some '-' => some .strip
  | some '+' => some .keep
  | _ => none

/-- The indentation that a digit from 1 to 9 stands for. A zero is refused. -/
def indentMark? (c : Cursor) : Option (Option Nat × Cursor) :=
  match c.head? with
  | some '0' => none
  | some d =>
    match Text.digitValue? 10 d with
    | some n => some (some n, c.advance 1)
    | none => some (none, c)
  | none => some (none, c)

/-- The marks after a block's indicator, in either order: how its end is treated, and how far it is
indented. -/
def blockHeader? (c : Cursor) : Option (Chomping × Option Nat × Cursor) :=
  match Chomping.ofMark? c.head? with
  | some chomping => (indentMark? (c.advance 1)).map fun (n, c) => (chomping, n, c)
  | none => do
    match ← indentMark? c with
    | (none, c) => some (.clip, none, c)
    | (some n, c) =>
      match Chomping.ofMark? c.head? with
      | some chomping => some (chomping, some n, c.advance 1)
      | none => some (.clip, some n, c)

/-- The empty lines at the start of a line of a block: their breaks, the furthest column reached,
and the place after the indentation of the next line. None if a tab stands in an indentation. -/
def emptyLines? (indent : Option Nat) : Nat → Nat → Cursor → Option (List Char × Nat × Cursor)
  | 0, _, _ => none
  | fuel + 1, furthest, c =>
    let wanted := match indent with
      | some n => n - c.column
      | none => c.rest.length
    let c := c.advance ((c.rest.take wanted).takeWhile (· = ' ')).length
    let furthest := max furthest c.column
    if c.starts '\t' && indent.all (c.column < ·) then none
    else match c.lineBreak? with
      | none => some ([], furthest, c)
      | some (b, c) => do
        let (more, furthest, c) ← emptyLines? indent fuel furthest c
        return (b :: more, furthest, c)

/-- A block up to its last line: its text, the break of that line, and the breaks of the empty lines
after it. -/
structure BlockText where
  text : List Char
  last : Option Char
  empty : List Char

/-- The lines of a block, after a line that ended with the break `last`, was followed by the empty
lines `empty` and started with a blank or not. In a folded block a break between two lines of which
neither starts with a blank reads as a space, or is dropped before empty lines. -/
def blockLines (folded : Bool) (indent : Nat) :
    Nat → Option Char → List Char → Bool → Cursor → Option (BlockText × Cursor)
  | 0, _, _, _, _ => none
  | fuel + 1, last, empty, indented, c =>
    if c.column = indent && !c.rest.isEmpty then do
      let blank := c.head?.any isGap
      let joint :=
        if folded && last = some '\n' && !indented && !blank then
          if empty.isEmpty then [' '] else []
        else last.toList
      let (line, c) := c.takeWhile (!isBreak ·)
      let (next, c) := match c.lineBreak? with
        | some (b, c) => (some b, c)
        | none => (none, c)
      let (emptyNext, _, c) ← emptyLines? (some indent) (c.rest.length + 1) 0 c
      let (more, c) ← blockLines folded indent fuel next emptyNext blank c
      return ({ more with text := joint ++ empty ++ line ++ more.text }, c)
    else some (⟨[], last, empty⟩, c)

/-- Reads a block of lines, the place being that of its indicator. It is indented as its header says,
or else as its first line that is not empty, but always to `margin` at least. -/
def block? (folded : Bool) (margin : Nat) (c : Cursor) : Option (List Char × Cursor) := do
  let (chomping, increment, c) ← blockHeader? (c.advance 1)
  let c := (← c.endOfLine?).skipBreak
  let given := increment.map (margin - 1 + ·)
  let fuel := c.rest.length + 1
  let (empty, furthest, c) ← emptyLines? given fuel 0 c
  let indent := given.getD (max furthest (max margin 1))
  let (b, c) ← blockLines folded indent fuel none empty false c
  let tail := match chomping with
    | .strip => []
    | .clip => b.last.toList
    | .keep => b.last.toList ++ b.empty
  return (b.text ++ tail, c)

end LedBench.Yaml
