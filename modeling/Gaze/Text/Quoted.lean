import Gaze.Text.GraphemeExtend
import Gaze.Text.Printable
/-!
Quoted text.

A text is quoted between double quotes. Inside, the NUL, tab, carriage return and line feed are
written `\0`, `\t`, `\r` and `\n`, and a backslash or double quote is written after a backslash.
A character that would join the one before it (grapheme-extending) or that cannot be seen (not
printable) is written by number as `\u` with its lower-case hexadecimal code in braces, without
leading zeros. Every other character, the single quote included, stands for itself.
-/

namespace Gaze.Text

/-- A character written by number: `\u`, then its hexadecimal code between braces. -/
def byNumber (c : Char) : List Char :=
  '\\' :: 'u' :: '\x7b' :: Nat.toDigits 16 c.toNat ++ ['\x7d']

/-- How one character is written inside quotes. -/
def quoteChar (c : Char) : List Char :=
  if c = '\x00' then ['\\', '0']
  else if c = '\t' then ['\\', 't']
  else if c = '\r' then ['\\', 'r']
  else if c = '\n' then ['\\', 'n']
  else if c = '\\' then ['\\', '\\']
  else if c = '"' then ['\\', '"']
  else if isGraphemeExtend c || !isPrintable c then byNumber c
  else [c]

/-- The text between double quotes, with its characters written as `quoteChar` says. -/
def quote (s : String) : String :=
  String.ofList ('"' :: s.toList.flatMap quoteChar ++ ['"'])

end Gaze.Text
