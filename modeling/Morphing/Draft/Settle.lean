import Morphing.Budget
import Morphing.Draft.Basic

/-!
# Settling a draft

Settling decides about all candidates of a draft within a budget. Each unit buys one decision in
favour of the new text: first the removal candidates are struck out, from the last one backwards,
then the insertion candidates are confirmed, also from the last one backwards. Removal candidates
that cannot be paid for stay, and insertion candidates that cannot be paid for are taken back.

A draft whose candidates do not point at characters of their own can send a position out of range.
Settling then stops where it is.
-/

namespace Morphing

/-- Work that has ended early, and how far it has come. -/
structure Stopped where
  cause : OutOfRange
  draft : Draft
  budget : Budget
deriving DecidableEq, Repr

namespace Draft

theorem length_removals_of_remove {d d' : Draft} {i : Nat} {c : Char}
    (h : d.remove i = .ok (c, d')) : d'.removals.length = d.removals.length := by
  simp only [remove] at h
  split at h
  · cases h; simp
  · cases h

theorem length_insertions_of_remove {d d' : Draft} {i : Nat} {c : Char}
    (h : d.remove i = .ok (c, d')) : d'.insertions.length = d.insertions.length := by
  simp only [remove] at h
  split at h
  · cases h; simp
  · cases h

theorem length_removals_of_popCandidate? {d d' : Draft} {i : Nat}
    (h : d.popCandidate? .removal = some (i, d')) :
    d.removals.length = d'.removals.length + 1 := by
  obtain ⟨chars, removals, insertions⟩ := d
  cases removals with
  | nil => cases h
  | cons j rest => cases h; rfl

theorem length_insertions_of_popCandidate? {d d' : Draft} {i : Nat}
    (h : d.popCandidate? .insertion = some (i, d')) :
    d.insertions.length = d'.insertions.length + 1 := by
  obtain ⟨chars, removals, insertions⟩ := d
  cases insertions with
  | nil => cases h
  | cons j rest => cases h; rfl

/-- Strike out removal candidates, the most recent first, while the budget lasts. -/
def strikeRemovals (d : Draft) (b : Budget) : Except Stopped (Draft × Budget) :=
  match b.spend? with
  | none => .ok (d, b)
  | some b' =>
    match hpop : d.popCandidate? .removal with
    | none => .ok (d, b)
    | some (i, popped) =>
      match hremove : popped.remove i with
      | .ok (_, rest) =>
        have : rest.removals.length < d.removals.length := by
          rw [length_removals_of_remove hremove, length_removals_of_popCandidate? hpop]
          exact Nat.lt_succ_self _
        strikeRemovals rest b'
      | .error e => .error ⟨e, popped, b⟩
termination_by d.removals.length

/-- Confirm insertion candidates, the most recent first, while the budget lasts, and take the
earlier ones back. -/
def confirmInsertions (d : Draft) (b : Budget) : Except Stopped (Draft × Budget) :=
  match hpop : d.popCandidate? .insertion with
  | none => .ok (d, b)
  | some (i, popped) =>
    have hlt : popped.insertions.length < d.insertions.length := by
      rw [length_insertions_of_popCandidate? hpop]
      exact Nat.lt_succ_self _
    match b.spend? with
    | some b' => confirmInsertions popped b'
    | none =>
      match hremove : popped.remove i with
      | .ok (_, rest) =>
        have : rest.insertions.length < d.insertions.length := by
          rw [length_insertions_of_remove hremove]
          exact hlt
        confirmInsertions rest b
      | .error e => .error ⟨e, popped, b⟩
termination_by d.insertions.length

/-- Decide about all candidates of a draft. -/
def settle (d : Draft) (b : Budget) : Except Stopped (Draft × Budget) := do
  let (d, b) ← d.strikeRemovals b
  let (d, b) ← d.confirmInsertions b
  return (d.clearCandidates, b)

end Draft

end Morphing
