import Tablecast.Text.Graphic

/-!
# Quoted text

A text between double quotes. Quote and backslash are escaped, and so is every character that
has no graphic form: five of them by a letter or digit, the others by their number.
-/

namespace Tablecast.Text

/-- A character by its number in lower case hexadecimal. -/
def numberEscape (c : Char) : List Char :=
  ['\\', 'u', '{'] ++ Nat.toDigits 16 c.toNat ++ ['}']

def escape (c : Char) : List Char :=
  if c = '\x00' then ['\\', '0']
  else if c = '\t' then ['\\', 't']
  else if c = '\n' then ['\\', 'n']
  else if c = '\r' then ['\\', 'r']
  else if c = '"' then ['\\', '"']
  else if c = '\\' then ['\\', '\\']
  else if isGraphic c then [c]
  else numberEscape c

/-- The text with every character escaped that must be, between quotes. -/
def quote (s : String) : String := .ofList ('"' :: s.toList.flatMap escape ++ ['"'])

end Tablecast.Text
