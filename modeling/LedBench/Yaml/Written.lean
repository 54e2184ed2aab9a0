import LedBench.Yaml.Cursor
import LedBench.Yaml.Kind

namespace LedBench.Yaml.Written

def isPrintable (c : Char) : Bool :=
  let n := c.toNat
  c = '\n' || (0x20 ≤ n && n ≤ 0x7E) || (0xA0 ≤ n && n ≠ 0xFEFF && n ≠ 0xFFFE && n ≠ 0xFFFF)

/-- A character that may stand inside a plain scalar, `before` and `after` being its neighbours. -/
def fitsInside (before c : Char) (after : Option Char) : Bool :=
  !(c = ':' && endsWord after) && !(c = '#' && endsWord (some before))

/-- A character that may start a plain scalar, `after` being its neighbour. -/
def fitsInFront (c : Char) (after : Option Char) : Bool :=
  !("#,[]\x7b\x7d&*!|>\x27\"%@\x60".toList.contains c) &&
    !("?:-".toList.contains c && endsWord after)

/-- The characters after the first fit inside a plain scalar. -/
def restFits : List Char → Bool
  | before :: c :: rest => fitsInside before c rest.head? && restFits (c :: rest)
  | _ => true

/-- A character is followed by one of another kind. -/
def followed (first second : Char → Bool) : List Char → Bool
  | a :: b :: rest => (first a && second b) || followed first second (b :: rest)
  | _ => false

def isSpace (c : Char) : Bool := c = ' '

/-- Nothing in the text needs double quotes in every form: no character needs an escape, and no line
ends in a space. -/
def isTame (cs : List Char) : Bool := cs.all isPrintable && !followed isSpace isBreak cs

def fitsPlain (cs : List Char) : Bool :=
  let ends := cs.head?.toList ++ cs.getLast?.toList
  isTame cs && !cs.any isBreak && !ends.any isSpace &&
    cs.take 3 ≠ ['-', '-', '-'] && cs.take 3 ≠ ['.', '.', '.'] &&
    cs.head?.all (fitsInFront · (cs.drop 1).head?) && restFits cs

def fitsSingle (cs : List Char) : Bool := isTame cs && !followed isBreak isSpace cs

def fitsLiteral (cs : List Char) : Bool := isTame cs && !cs.getLast?.any isSpace

/-- A word that would read as a truth value, a number or nothing at all, or that is refused as a
number. -/
def needsQuotes (s : String) : Bool := Kind.of s ≠ .text || hasNeedlessZero s.toList

def margin (indent : Nat) : List Char := List.replicate indent ' '

/-- Text between single quotes, `broken` if a line was just ended. A quote is doubled, and a line
starts at the indentation. -/
def singleQuoted (indent : Nat) : Bool → List Char → List Char
  | broken, [] => if broken then margin indent else []
  | broken, c :: rest =>
    if isBreak c then c :: singleQuoted indent true rest
    else
      (if broken then margin indent else []) ++ (if c = '\x27' then [c, c] else [c]) ++
        singleQuoted indent false rest

/-- The letters that stand for some characters behind a backslash. -/
def letters : List (Char × Char) :=
  [('\x00', '0'), ('\x07', 'a'), ('\x08', 'b'), ('\t', 't'), ('\n', 'n'), ('\x0b', 'v'),
    ('\x0c', 'f'), ('\r', 'r'), ('\x1b', 'e'), ('"', '"'), ('\\', '\\'), ('\u0085', 'N'),
    ('\u2028', 'L'), ('\u2029', 'P')]

/-- A code point in two, four or eight digits, whichever suffices. -/
def codePoint (n : Nat) : List Char :=
  let digits := fun width => (Text.hexDigits width n).map Char.toUpper
  if n ≤ 0xFF then 'x' :: digits 2
  else if n ≤ 0xFFFF then 'u' :: digits 4
  else 'U' :: digits 8

/-- A character between double quotes. -/
def doubleQuotedChar (c : Char) : List Char :=
  if isPrintable c && !isBreak c && c ≠ '"' && c ≠ '\\' then [c]
  else match letters.lookup c with
    | some letter => ['\\', letter]
    | none => '\\' :: codePoint c.toNat

/-- The lines of a block, `broken` if a line was just ended. -/
def blockLines (indent : Nat) : Bool → List Char → List Char
  | _, [] => []
  | broken, c :: rest =>
    if isBreak c then c :: blockLines indent true rest
    else (if broken then margin indent else []) ++ c :: blockLines indent false rest

/-- The marks of a block: its indentation, where its first character would hide it, and whether it
ends in no line break or in several. -/
def blockMarks (cs : List Char) : List Char :=
  let indented := if cs.head?.any fun c => isSpace c || isBreak c then ['2'] else []
  let chomping := match cs.reverse with
    | [] => ['-']
    | [last] => if isBreak last then ['+'] else ['-']
    | last :: previous :: _ =>
      if !isBreak last then ['-'] else if isBreak previous then ['+'] else []
  indented ++ chomping

/-- A text as a scalar: with line feeds a block of lines where it can be, else plainly where that
reads back as the same text, else between single quotes, else between double quotes. -/
def ofText (indent : Nat) (s : String) : String :=
  let cs := s.toList
  String.ofList <|
    if cs.contains '\n' && fitsLiteral cs then
      '|' :: blockMarks cs ++ ['\n'] ++ blockLines indent true cs
    else if !cs.contains '\n' && !needsQuotes s && fitsPlain cs then cs
    else if !cs.contains '\n' && fitsSingle cs then '\x27' :: singleQuoted indent false cs ++ ['\x27']
    else '"' :: cs.flatMap doubleQuotedChar ++ ['"']

end LedBench.Yaml.Written
