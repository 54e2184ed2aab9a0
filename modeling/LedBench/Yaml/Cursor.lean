namespace LedBench.Yaml

def isGap (c : Char) : Bool := c = ' ' || c = '\t'

def isBreak (c : Char) : Bool :=
  c = '\n' || c = '\r' || c = '\u0085' || c = '\u2028' || c = '\u2029'

/-- A word ends before such a character, and before the end of the text. -/
def endsWord : Option Char → Bool
  | none => true
  | some c => isGap c || isBreak c

/-- A character that may stand in a text. -/
def isAllowed (c : Char) : Bool :=
  let n := c.toNat
  c = '\t' || c = '\n' || c = '\r' || (0x20 ≤ n && n ≤ 0x7E) || n = 0x85 ||
    (0xA0 ≤ n && n ≤ 0xFFFD) || 0x10000 ≤ n

def byteOrderMark : Char := '\ufeff'

/-- A place in a text. Lines and columns count from 0. -/
structure Cursor where
  rest : List Char
  index : Nat := 0
  line : Nat := 0
  column : Nat := 0
  deriving Repr

namespace Cursor

def head? (c : Cursor) : Option Char := c.rest.head?

def peek? (c : Cursor) (n : Nat) : Option Char := c.rest[n]?

def starts (c : Cursor) (x : Char) : Bool := c.rest.head? = some x

/-- The place `n` characters on, none of which ends a line. -/
def advance (c : Cursor) (n : Nat) : Cursor :=
  { c with rest := c.rest.drop n, index := c.index + n, column := c.column + n }

/-- The characters up to the first that does not fit, and the place before that one. Characters
that end a line must not fit. -/
def takeWhile (c : Cursor) (fits : Char → Bool) : List Char × Cursor :=
  let taken := c.rest.takeWhile fits
  (taken, c.advance taken.length)

/-- The place before the first character that does not fit. -/
def skipWhile (c : Cursor) (fits : Char → Bool) : Cursor := (c.takeWhile fits).2

/-- The place at the start of the next line, `n` characters on. -/
def nextLine (c : Cursor) (n : Nat) : Cursor :=
  { rest := c.rest.drop n, index := c.index + n, line := c.line + 1, column := 0 }

/-- Steps over a line break. It is read as a line feed, except that the separators of lines and of
paragraphs stand for themselves. -/
def lineBreak? (c : Cursor) : Option (Char × Cursor) :=
  match c.rest with
  | '\r' :: '\n' :: _ => some ('\n', c.nextLine 2)
  | x :: _ =>
    if x = '\u2028' || x = '\u2029' then some (x, c.nextLine 1)
    else if isBreak x then some ('\n', c.nextLine 1)
    else none
  | [] => none

def skipBreak (c : Cursor) : Cursor :=
  match c.lineBreak? with
  | some (_, c) => c
  | none => c

/-- Steps over what may follow the last token of a line, up to its break: blanks and a comment. None
if there is anything else. -/
def endOfLine? (c : Cursor) : Option Cursor :=
  let c := c.skipWhile isGap
  let c := if c.starts '#' then c.skipWhile (!isBreak ·) else c
  if c.rest.isEmpty || c.head?.any isBreak then some c else none

/-- Three times `mark`, as a word of its own at the start of a line. -/
def atMark (c : Cursor) (mark : Char) : Bool :=
  c.column = 0 && c.rest.take 3 = [mark, mark, mark] && endsWord (c.peek? 3)

/-- A mark that starts or ends a document. -/
def atDocumentMark (c : Cursor) : Bool := c.atMark '-' || c.atMark '.'

end Cursor

end LedBench.Yaml
