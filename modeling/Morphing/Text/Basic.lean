/-!
# Texts

A text is a list of characters, each one a Unicode scalar value. Lengths, positions and edits count
characters, never bytes.
-/

namespace Morphing

/-- A text, character by character. -/
abbrev Text := List Char

namespace Text

/-- Whether a character is white space in the sense of the Unicode property `White_Space`. -/
def isBlank (c : Char) : Bool :=
  let n := c.toNat
  (0x09 ≤ n && n ≤ 0x0D) || n == 0x20 || n == 0x85 || n == 0xA0 || n == 0x1680 ||
    (0x2000 ≤ n && n ≤ 0x200A) || n == 0x2028 || n == 0x2029 || n == 0x202F || n == 0x205F ||
    n == 0x3000

/-- A number in decimal digits, which may begin with a plus sign. -/
def number? (t : Text) : Option Nat :=
  let digits := match t with
    | '+' :: digits => digits
    | digits => digits
  if digits.isEmpty || !digits.all Char.isDigit then none
  else some (digits.foldl (fun n c => n * 10 + (c.toNat - 0x30)) 0)

end Text

end Morphing
