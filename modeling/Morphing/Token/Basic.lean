import Morphing.Text.Basic

/-!
# Tokens

A token is a piece of text together with a key. Two tokens are the same when their keys are, however
they are spelled.
-/

namespace Morphing

/-- A piece of text, `original`, that is compared by its `key`. -/
structure Token (κ : Type u) where
  key : κ
  original : Text
deriving Repr

namespace Token

instance [BEq κ] : BEq (Token κ) := ⟨fun a b => a.key == b.key⟩

@[simp] theorem beq_def [BEq κ] (a b : Token κ) : (a == b) = (a.key == b.key) := rfl

/-- The token of a piece of text that is compared by a key. -/
def ofText (key : Text → κ) (t : Text) : Token κ := ⟨key t, t⟩

end Token

end Morphing
