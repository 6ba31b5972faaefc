import Morphing.Text.Visible

/-!
# Quoted texts

How messages show a text: between double quotes, on one line, with escapes for whatever would be
misread or not be seen.
-/

namespace Morphing.Text

/-- The digits of a number to base sixteen, in lower case. -/
def hexadecimal (n : Nat) : Text := Nat.toDigits 16 n

/-- How one character is written between quotes. -/
def escape (c : Char) : Text :=
  if c = '\t' then ['\\', 't']
  else if c = '\r' then ['\\', 'r']
  else if c = '\n' then ['\\', 'n']
  else if c = '\x00' then ['\\', '0']
  else if c = '"' then ['\\', '"']
  else if c = '\\' then ['\\', '\\']
  else if isVisible c then [c]
  else ['\\', 'u', '\x7b'] ++ hexadecimal c.toNat ++ ['\x7d']

/-- A text between double quotes. -/
def quoted (t : Text) : Text := '"' :: t.flatMap escape ++ ['"']

end Morphing.Text
