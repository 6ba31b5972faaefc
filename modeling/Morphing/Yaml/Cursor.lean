import Morphing.Text.Bytes

/-!
# Places in a YAML text

A YAML text is read with a cursor that knows its line and column, since indentation decides what
belongs together, and its offset in bytes, since keys are limited in length.

There are several line breaks. All but the line and the paragraph separator are read as line feeds.
-/

namespace Morphing.Yaml

/-- What is left of a text, and where it begins. -/
structure Cursor where
  rest : Text
  offset : Nat
  line : Nat
  column : Nat
deriving DecidableEq, Repr

/-- Whether a text may hold a character. -/
def isAllowed (c : Char) : Bool :=
  let n := c.toNat
  n == 0x09 || n == 0x0A || n == 0x0D || (0x20 ≤ n && n ≤ 0x7E) || n == 0x85 ||
    (0xA0 ≤ n && n ≤ 0xFFFD) || 0x10000 ≤ n

/-- Whether a character is a space or a tab. -/
def isSpace (c : Char) : Bool := c == ' ' || c == '\t'

/-- Whether a line ends with a character. -/
def isBreak (c : Char) : Bool :=
  c == '\n' || c == '\r' || c.toNat == 0x85 || c.toNat == 0x2028 || c.toNat == 0x2029

/-- Whether a character is none to be seen. -/
def isGap (c : Char) : Bool := isSpace c || isBreak c

/-- Whether a text begins with a space, a tab or a line break, or has come to its end. -/
def atGap (t : Text) : Bool := t.head?.all isGap

/-- Whether a name can hold a character. -/
def isNameChar (c : Char) : Bool := c.isAlphanum || c == '_' || c == '-'

namespace Cursor

/-- The beginning of a text. -/
def start (t : Text) : Cursor := ⟨t, 0, 0, 0⟩

/-- Move past characters other than line breaks. -/
def skip (c : Cursor) (count : Nat) : Cursor :=
  ⟨c.rest.drop count, c.offset + Text.byteLength (c.rest.take count), c.line, c.column + count⟩

/-- Read the characters up to the first one that is not of a kind, none of which is a line break. -/
def take (c : Cursor) (kind : Char → Bool) : Text × Cursor :=
  let t := c.rest.takeWhile kind
  (t, c.skip t.length)

/-- Move past spaces and tabs. -/
def spaces (c : Cursor) : Cursor := (c.take isSpace).2

/-- Move to the end of the line. -/
def restOfLine (c : Cursor) : Cursor := (c.take fun c => !isBreak c).2

/-- Read a line break. -/
def break? (c : Cursor) : Option (Text × Cursor) :=
  match c.rest with
  | '\r' :: '\n' :: rest => some (['\n'], ⟨rest, c.offset + 2, c.line + 1, 0⟩)
  | b :: rest =>
    if isBreak b then
      let text := if b.toNat = 0x2028 ∨ b.toNat = 0x2029 then b else '\n'
      some ([text], ⟨rest, c.offset + b.utf8Size, c.line + 1, 0⟩)
    else none
  | [] => none

/-- Whether the text goes on with a character. -/
def sees (c : Cursor) (char : Char) : Bool := c.rest.head? == some char

/-- Whether an indicator starts here that is set off from what follows. -/
def atIndicator (c : Cursor) (indicator : Char) : Bool := c.sees indicator && atGap (c.rest.drop 1)

/-- Whether a line that begins a document starts here. -/
def atBeginning (c : Cursor) : Bool :=
  c.column == 0 && ['-', '-', '-'].isPrefixOf c.rest && atGap (c.rest.drop 3)

/-- Whether a line that ends a document starts here. -/
def atEnding (c : Cursor) : Bool :=
  c.column == 0 && ['.', '.', '.'].isPrefixOf c.rest && atGap (c.rest.drop 3)

/-- Whether a line that begins or ends a document starts here. -/
def atMarker (c : Cursor) : Bool := c.atBeginning || c.atEnding

/-- Move past a comment, if one starts here. -/
def comment (c : Cursor) : Cursor := if c.sees '#' then c.restOfLine else c

/-- Move past spaces and a comment to the end of the line, where there is nothing else. The line
break is left. -/
def lineEnd? (c : Cursor) : Option Cursor :=
  let c := c.spaces.comment
  if c.rest.head?.all isBreak then some c else none

/-- Move past a line break, if one stands here. -/
def nextLine (c : Cursor) : Cursor := (c.break?.map Prod.snd).getD c

end Cursor

end Morphing.Yaml
