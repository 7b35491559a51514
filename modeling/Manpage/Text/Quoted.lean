/-
# Quoted texts

How a message quotes a text: between double quotes, with a backslash before a double quote and a
backslash, short escapes for the usual controls, and every other unprintable character as its
number in hexadecimal between braces.  A single quote stands for itself.
-/
import Manpage.Text.Unprintable

namespace Manpage.Text

/-- How one character is written inside the quotes. -/
def quotedChar (c : Char) : Text :=
  if c = '"' then ['\\', '"']
  else if c = '\\' then ['\\', '\\']
  else if c = '\t' then ['\\', 't']
  else if c = '\r' then ['\\', 'r']
  else if c = '\n' then ['\\', 'n']
  else if c.toNat = 0 then ['\\', '0']
  else if isUnprintable c then ['\\', 'u', '\x7b'] ++ Nat.toDigits 16 c.toNat ++ ['\x7d']
  else [c]

/-- A text between double quotes. -/
def quoted (s : Text) : Text := '"' :: s.flatMap quotedChar ++ ['"']

/-- A list of texts, each quoted, between brackets. -/
def quotedList (ts : List Text) : Text := '[' :: join [',', ' '] (ts.map quoted) ++ [']']

end Manpage.Text
