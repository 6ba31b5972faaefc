import Morphing.Text.Basic

/-!
# Drafts

A draft is the text of a morph in the making. Some of its characters are candidates: a removal
candidate is a character of the old text that is still there, an insertion candidate one of the new
text that is there already. Two stacks hold their positions, most recent first, and follow the
characters when others before them are removed.

A position that equals a removed one stays as it is, and so points at whatever comes next.
-/

namespace Morphing

/-- What is to be decided about a character of a draft. -/
inductive Candidate where
  | removal
  | insertion
deriving DecidableEq, Repr

/-- A text in the making, with the positions of its candidates, most recent first. -/
structure Draft where
  chars : Array Char
  removals : List Nat
  insertions : List Nat
deriving DecidableEq, Repr

/-- A position at which a draft has no character. -/
structure OutOfRange where
  position : Nat
  size : Nat
deriving DecidableEq, Repr

/-- The error in words. -/
def OutOfRange.message (e : OutOfRange) : String :=
  s!"Cannot remove position {e.position} from a buffer of {e.size} characters"

/-- Where a position moves when the character at `removed` goes. -/
def shiftPast (removed position : Nat) : Nat :=
  if removed < position then position - 1 else position

namespace Draft

/-- A draft without characters. -/
def empty : Draft := ⟨#[], [], []⟩

/-- The text of a draft. -/
def text (d : Draft) : Text := d.chars.toList

/-- The positions of the candidates of one kind, most recent first. -/
def candidates (d : Draft) : Candidate → List Nat
  | .removal => d.removals
  | .insertion => d.insertions

/-- Add a text at the end, with nothing to be decided about it. -/
def append (d : Draft) (t : Text) : Draft := { d with chars := d.chars.appendList t }

/-- Add a character at the end and make it a candidate. -/
def pushCandidate (kind : Candidate) (d : Draft) (c : Char) : Draft :=
  match d, kind with
  | ⟨chars, removals, insertions⟩, .removal =>
    ⟨chars.push c, chars.size :: removals, insertions⟩
  | ⟨chars, removals, insertions⟩, .insertion =>
    ⟨chars.push c, removals, chars.size :: insertions⟩

/-- Take the most recent candidate of one kind off its stack. The text stays as it is. -/
def popCandidate? (d : Draft) : Candidate → Option (Nat × Draft)
  | .removal =>
    match d with
    | ⟨_, [], _⟩ => none
    | ⟨chars, i :: removals, insertions⟩ => some (i, ⟨chars, removals, insertions⟩)
  | .insertion =>
    match d with
    | ⟨_, _, []⟩ => none
    | ⟨chars, removals, i :: insertions⟩ => some (i, ⟨chars, removals, insertions⟩)

/-- Forget all candidates. The text stays as it is. -/
def clearCandidates (d : Draft) : Draft := ⟨d.chars, [], []⟩

/-- Remove the character at a position. Candidates behind it move up. -/
def remove (d : Draft) (i : Nat) : Except OutOfRange (Char × Draft) :=
  match d with
  | ⟨chars, removals, insertions⟩ =>
    if h : i < chars.size then
      .ok (chars[i], ⟨chars.eraseIdx i, removals.map (shiftPast i), insertions.map (shiftPast i)⟩)
    else .error ⟨i, chars.size⟩

@[simp] theorem candidates_empty (kind : Candidate) : empty.candidates kind = [] := by
  cases kind <;> rfl

@[simp] theorem text_append (d : Draft) (t : Text) : (d.append t).text = d.text ++ t := by
  simp [text, append]

@[simp] theorem candidates_append (d : Draft) (t : Text) (kind : Candidate) :
    (d.append t).candidates kind = d.candidates kind := by cases kind <;> rfl

@[simp] theorem text_pushCandidate (d : Draft) (c : Char) (kind : Candidate) :
    (d.pushCandidate kind c).text = d.text ++ [c] := by
  cases kind <;> simp [text, pushCandidate]

theorem candidates_pushCandidate (d : Draft) (c : Char) (kind other : Candidate) :
    (d.pushCandidate kind c).candidates other =
      if other = kind then d.text.length :: d.candidates other else d.candidates other := by
  cases kind <;> cases other <;> rfl

@[simp] theorem text_clearCandidates (d : Draft) : d.clearCandidates.text = d.text := rfl

@[simp] theorem candidates_clearCandidates (d : Draft) (kind : Candidate) :
    d.clearCandidates.candidates kind = [] := by cases kind <;> rfl

theorem remove_eq_ok {d : Draft} {i : Nat} (h : i < d.text.length) :
    ∃ c d', d.remove i = .ok (c, d') ∧ d.text[i]? = some c ∧ d'.text = d.text.eraseIdx i ∧
      ∀ kind, d'.candidates kind = (d.candidates kind).map (shiftPast i) := by
  have hsize : i < d.chars.size := by simpa [text] using h
  refine ⟨d.chars[i], _, by rw [remove, dif_pos hsize], ?_, ?_, ?_⟩
  · simp [text, hsize]
  · simp [text]
  · intro kind
    cases kind <;> rfl

theorem remove_eq_error {d : Draft} {i : Nat} (h : d.text.length ≤ i) :
    d.remove i = .error ⟨i, d.text.length⟩ := by
  have hsize : ¬i < d.chars.size := by simpa [text] using h
  rw [remove, dif_neg hsize]
  rfl

end Draft

end Morphing
