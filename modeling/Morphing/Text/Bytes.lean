import Morphing.Text.Basic

/-!
# Texts in bytes

Input arrives as bytes. It counts as text if it is well-formed UTF-8 and holds no zero byte: a
zero byte is allowed in UTF-8, but not expected in anything meant to be read. Places in a text can
be given in bytes: there is none inside a character.
-/

namespace Morphing.Text

/-- The text that some bytes encode, if they are text at all. -/
def ofBytes? (bytes : ByteArray) : Option Text :=
  if bytes.data.contains 0 then none else (String.fromUTF8? bytes).map String.toList

/-- The bytes that encode a text. -/
def toBytes (t : Text) : ByteArray := (String.ofList t).toUTF8

/-- The number of bytes that encode a text. -/
def byteLength : Text → Nat
  | [] => 0
  | c :: t => c.utf8Size + byteLength t

/-- The beginning of a text that takes up the given number of bytes, and the rest. There is none if
a character would have to be cut. -/
def splitBytes? : Nat → Text → Option (Text × Text)
  | 0, t => some ([], t)
  | _ + 1, [] => none
  | n + 1, c :: t =>
    if c.utf8Size ≤ n + 1 then
      (splitBytes? (n + 1 - c.utf8Size) t).map fun (first, rest) => (c :: first, rest)
    else none

/-- What stands behind the given number of bytes. -/
def dropBytes? (t : Text) (start : Nat) : Option Text := (splitBytes? start t).map Prod.snd

/-- What stands between two offsets in bytes. -/
def slice? (t : Text) (start stop : Nat) : Option Text := do
  let rest ← dropBytes? t start
  (splitBytes? (stop - start) rest).map Prod.fst

end Morphing.Text
