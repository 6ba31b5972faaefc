import Morphing.Token.Lines

/-!
# Words and characters

Words are the longest runs of blank and of other characters, in turn: the gaps between words are
tokens like any other, so nothing of the text is lost.
-/

namespace Morphing

namespace Text

/-- The words of a text from place `start` on, where the one being read begins. The character at
place `i` is the first of `rest`, and `blank` tells the kind of the one before it. -/
def wordsFrom (t : Text) (start i : Nat) (blank : Bool) : (rest : Text) → List Text
  | [] => if start < t.length then [t.drop start] else []
  | c :: rest =>
    if blank != isBlank c then t.extract start i :: wordsFrom t i (i + 1) (isBlank c) rest
    else wordsFrom t start (i + 1) (isBlank c) rest

/-- The runs of blank and of other characters of a text. -/
def words (t : Text) : List Text := wordsFrom t 0 0 (t.head?.all isBlank) t

/-- The characters of a text, each as a text of its own. -/
def characters (t : Text) : List Text := t.map fun c => [c]

@[simp] theorem flatten_characters (t : Text) : (characters t).flatten = t := by
  induction t with
  | nil => rfl
  | cons c t ih => simpa [characters] using ih

/-- Whether a text holds nothing but blank characters. -/
def allBlank (t : Text) : Bool := t.all isBlank

end Text

/-- The sizes of pieces into which a text can be split. -/
inductive Granularity where
  | line
  | word
  | character
deriving DecidableEq, Repr

namespace Granularity

/-- The pieces of a text. -/
def split : Granularity → Text → List Text
  | line => Text.lines
  | word => Text.words
  | character => Text.characters

end Granularity

end Morphing
