import LedBench.Text.Digits
import LedBench.Text.Unprintable

namespace LedBench.Text

/-- How a character stands inside quotes: the usual controls by letter, quote and backslash behind
a backslash, what cannot be seen by its code point, all else as it is. -/
def quotedChar (c : Char) : List Char :=
  if c = '\x00' then ['\\', '0']
  else if c = '\t' then ['\\', 't']
  else if c = '\r' then ['\\', 'r']
  else if c = '\n' then ['\\', 'n']
  else if c = '"' then ['\\', '"']
  else if c = '\\' then ['\\', '\\']
  else if isUnprintable c then ['\\', 'u', '\x7b'] ++ hexDigits 1 c.toNat ++ ['\x7d']
  else [c]

/-- A text between double quotes on one line, in which blanks, quotes and controls can be seen. -/
def quoted (s : String) : String :=
  String.ofList ('"' :: s.toList.flatMap quotedChar ++ ['"'])

end LedBench.Text
