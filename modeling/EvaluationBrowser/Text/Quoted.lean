/-
# Quoted texts

A text that came from outside is shown in an error message between quotation marks, in one line
and with every character visible. Quotation marks and backslashes get a backslash; the null
character, tab, line feed and carriage return go by their letters; every other invisible character
goes by its code point in lower-case hexadecimal, between braces.
-/
import EvaluationBrowser.Text.Invisible

namespace EvaluationBrowser.Text

/-- How one character stands between quotation marks. -/
def quotedChar (c : Char) : List Char :=
  if c = '"' then ['\\', '"']
  else if c = '\\' then ['\\', '\\']
  else if c = '\x00' then ['\\', '0']
  else if c = '\t' then ['\\', 't']
  else if c = '\n' then ['\\', 'n']
  else if c = '\r' then ['\\', 'r']
  else if isInvisible c then ['\\', 'u', '\x7b'] ++ Nat.toDigits 16 c.toNat ++ ['\x7d']
  else [c]

def quoted (s : String) : String :=
  String.ofList ('"' :: s.toList.flatMap quotedChar ++ ['"'])

example : '"' :: ['a', '\t', '"'].flatMap quotedChar ++ ['"'] =
    ['"', 'a', '\\', 't', '\\', '"', '"'] := by decide +kernel

/-- An accent that would join the character before it is written by its code point. -/
example : ['e', '\u0301'].flatMap quotedChar =
    ['e', '\\', 'u', '\x7b', '3', '0', '1', '\x7d'] := by decide +kernel

end EvaluationBrowser.Text
