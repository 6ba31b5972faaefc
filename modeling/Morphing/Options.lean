/-!
# Options

Two choices shape a morph: which removed line an added line is paired with, and what becomes of
words that are left without a partner inside a pair of lines.
-/

namespace Morphing

/-- Which removed lines can become the partner of an added line. -/
inductive LinePairing where
  /-- The last removed line that has no partner yet, however far back. -/
  | stack
  /-- The same, but only if no kept line stands between the two. -/
  | adjacent
deriving DecidableEq, Repr

/-- What becomes of words without a partner. -/
inductive UnpairedTokens where
  /-- An added word leaves room for itself, a removed one vanishes. -/
  | separator
  /-- Both are reconciled with an empty partner, character by character. -/
  | reconcile
deriving DecidableEq, Repr

/-- The options of a morph. -/
structure Options where
  linePairing : LinePairing := .stack
  unpairedTokens : UnpairedTokens := .separator
deriving DecidableEq, Repr

instance : Inhabited Options := ⟨{}⟩

end Morphing
