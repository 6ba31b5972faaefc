import Mathlib.Data.List.Count
import Morphing.Draft.Merge
import Morphing.Proofs.Diff.Shape

/-!
# Drafts superpose two versions

A character diff says of every character of a draft what is to be decided about it.
`Draft.Superposes` ties a draft to such a list of changes: its text has all their characters, and
its stacks hold the places of the removed and of the added ones.

Merging two lines appends what their pairs of words come to, a list that depends on the two lines
only.
-/

namespace Morphing

namespace Candidate

/-- A character as a candidate. -/
def mark : Candidate → α → Change α
  | removal => .removed
  | insertion => .added

/-- Whether a change makes its character a candidate of this kind. -/
def marks : Candidate → Change α → Bool
  | removal => Change.isRemoved
  | insertion => Change.isAdded

@[simp] theorem marks_kept (kind : Candidate) (a : α) : kind.marks (.kept a) = false := by
  cases kind <;> rfl

@[simp] theorem marks_mark (kind other : Candidate) (a : α) :
    other.marks (kind.mark a) = decide (other = kind) := by
  cases kind <;> cases other <;> rfl

@[simp] theorem item_mark (kind : Candidate) (a : α) : (kind.mark a).item = a := by
  cases kind <;> rfl

theorem exists_eq_mark {kind : Candidate} {c : Change α} (h : kind.marks c = true) :
    ∃ a, c = kind.mark a := by
  cases kind <;> cases c <;> first | exact ⟨_, rfl⟩ | cases h

end Candidate

/-- A draft whose characters are those of a list of changes, with its candidates at the places of
the removed and of the added ones. -/
structure Draft.Superposes (d : Draft) (cs : List (Change Char)) : Prop where
  text : d.text = cs.map Change.item
  candidates : ∀ kind, d.candidates kind = (cs.findIdxs kind.marks).reverse

namespace Draft.Superposes

variable {d : Draft} {cs : List (Change Char)}

theorem length_text (h : d.Superposes cs) : d.text.length = cs.length := by
  rw [h.text, List.length_map]

theorem length_candidates (h : d.Superposes cs) (kind : Candidate) :
    (d.candidates kind).length = cs.countP kind.marks := by
  rw [h.candidates, List.length_reverse, List.length_findIdxs]

theorem of_no_candidates (hd : ∀ kind, d.candidates kind = []) :
    d.Superposes (d.text.map .kept) where
  text := by simp [Function.comp_def]
  candidates kind := by
    rw [hd, List.findIdxs_eq_nil_iff.mpr (by simp), List.reverse_nil]

theorem append (h : d.Superposes cs) (t : Text) : (d.append t).Superposes (cs ++ t.map .kept) where
  text := by simp [h.text, Function.comp_def]
  candidates kind := by
    have none : (t.map Change.kept).findIdxs kind.marks (0 + cs.length) = [] := by
      apply List.findIdxs_eq_nil_iff.mpr
      simp
    rw [candidates_append, h.candidates, List.findIdxs_append, none, List.append_nil]

theorem pushCandidate (h : d.Superposes cs) (kind : Candidate) (c : Char) :
    (d.pushCandidate kind c).Superposes (cs ++ [kind.mark c]) where
  text := by simp [h.text]
  candidates other := by
    rw [candidates_pushCandidate, h.length_text, h.candidates, List.findIdxs_append,
      List.findIdxs_singleton, Candidate.marks_mark, Nat.zero_add, List.reverse_append]
    by_cases same : other = kind <;> simp [same]

/-- Work on a draft, item by item, appends what each item comes to. -/
theorem foldl {f : Draft → α → Draft} {g : α → List (Change Char)}
    (step : ∀ {d : Draft} {cs : List (Change Char)} (a : α), d.Superposes cs →
      (f d a).Superposes (cs ++ g a)) (l : List α) (h : d.Superposes cs) :
    (l.foldl f d).Superposes (cs ++ l.flatMap g) := by
  induction l generalizing d cs with
  | nil => simpa using h
  | cons a l ih =>
    have later := ih (step a h)
    rwa [List.append_assoc, ← List.flatMap_cons] at later

theorem pushCandidates (h : d.Superposes cs) (kind : Candidate) (t : Text) :
    (t.foldl (Draft.pushCandidate kind) d).Superposes (cs ++ t.map kind.mark) := by
  have pushed := foldl (fun c h => pushCandidate h kind c) t h
  rwa [← List.map_eq_flatMap] at pushed

end Draft.Superposes

/-! ### Merging -/

/-- The characters of a changed text, each with the same change. -/
def Change.characters : Change Text → List (Change Char)
  | kept t => t.map kept
  | removed t => t.map removed
  | added t => t.map added

/-- What becomes of the characters of a pair of words. -/
def TokenPair.changes : TokenPair → List (Change Char)
  | kept token => token.map .kept
  | rewritten old new => diff old new
  | separator _ => [.kept ' ']
  | omitted _ | dropped _ => []

/-- What becomes of the characters of two lines. -/
def superposition (mode : UnpairedTokens) (old new : Text) : List (Change Char) :=
  (tokenPairs mode old new).flatMap TokenPair.changes

/-- The character diff of two texts is the diff of their lists of characters. -/
theorem flatMap_characters_diff (old new : Text) :
    (Granularity.character.diff old new).flatMap Change.characters = diff old new := by
  have same : ∀ a b : Char, (([a] : Text) == [b]) = (a == b) := by
    intro a b
    simp
  have single : ∀ c : Change Char, (c.map fun a => ([a] : Text)).characters = [c] := by
    intro c
    cases c <;> rfl
  have mapped : Granularity.character.diff old new =
      (diff old new).map (Change.map fun a => [a]) := diff_map _ same old new
  rw [mapped, List.flatMap_map]
  calc (diff old new).flatMap (fun c => (c.map fun a => ([a] : Text)).characters)
      _ = (diff old new).flatMap fun c => [c] := by simp only [single]
      _ = diff old new := List.flatMap_singleton' _

namespace Draft.Superposes

variable {d : Draft} {cs : List (Change Char)}

theorem write (h : d.Superposes cs) (c : Change Text) :
    (d.write c).Superposes (cs ++ c.characters) := by
  cases c with
  | kept t => exact h.append t
  | removed t => exact h.pushCandidates .removal t
  | added t => exact h.pushCandidates .insertion t

theorem reconcile (h : d.Superposes cs) (old new : Text) :
    (d.reconcile old new).Superposes (cs ++ diff old new) := by
  rw [← flatMap_characters_diff]
  exact foldl (fun c h => write h c) _ h

theorem writePair (h : d.Superposes cs) (pair : TokenPair) :
    (d.writePair pair).Superposes (cs ++ pair.changes) := by
  cases pair with
  | kept token => exact h.append token
  | rewritten old new => exact h.reconcile old new
  | separator token => exact h.append [' ']
  | omitted token | dropped count => simpa [Draft.writePair, TokenPair.changes] using h

theorem merge (h : d.Superposes cs) (mode : UnpairedTokens) (old new : Text) :
    (d.merge mode old new).Superposes (cs ++ superposition mode old new) :=
  foldl (fun pair h => writePair h pair) _ h

end Draft.Superposes

end Morphing
