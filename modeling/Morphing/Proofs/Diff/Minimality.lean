import Morphing.Proofs.Diff.Normal

/-!
# Diffs are minimal

A list of changes that leads from one sequence to the other is an alignment of the two, and two
common subsequences that are the same can be kept by one. So a diff, whose script has as few edits
as any alignment, keeps as many elements as two sequences can have in common, and removes and adds
as few as any list of changes between them.
-/

namespace Morphing

open Diff

/-- A sequence that both lists have as a subsequence, and none longer. -/
structure LongestCommon (common old new : List α) : Prop where
  sublist_old : common.Sublist old
  sublist_new : common.Sublist new
  longest : ∀ other : List α, other.Sublist old → other.Sublist new → other.length ≤ common.length

namespace Change

theorem count_keep_map_step (changes : List (Change α)) :
    (changes.map step).count .keep = changes.countP isKept := by
  induction changes with
  | nil => rfl
  | cons c changes ih => cases c <;> simpa [List.count_cons, List.countP_cons] using ih

theorem edits_map_step (changes : List (Change α)) :
    edits (changes.map step) = changes.countP isRemoved + changes.countP isAdded := by
  induction changes with
  | nil => rfl
  | cons c changes ih =>
    cases c with
    | kept a => simpa [List.countP_cons] using ih
    | removed a | added a =>
      simp [List.countP_cons, ih]
      omega

end Change

section Keys

variable [BEq κ] {old new : List (Token κ)}

/-- Changes that lead from the keys of one list to the keys of the other align the two. -/
theorem alignment_of_keys [LawfulBEq κ] {changes : List (Change (Token κ))}
    (hold : (changes.filterMap Change.old?).map Token.key = old.map Token.key)
    (hnew : (changes.filterMap Change.new?).map Token.key = new.map Token.key) :
    Alignment (changes.map Change.step) old new := by
  induction changes generalizing old new with
  | nil =>
    rw [List.map_eq_nil_iff.mp hold.symm, List.map_eq_nil_iff.mp hnew.symm]
    exact .nil
  | cons c changes ih =>
    cases c with
    | kept a =>
      obtain ⟨o, old, rfl, ho, hold⟩ := List.map_eq_cons_iff.mp hold.symm
      obtain ⟨n, new, rfl, hn, hnew⟩ := List.map_eq_cons_iff.mp hnew.symm
      have same : (o == n) = true := by rw [Token.beq_def, ho, hn, beq_self_eq_true]
      exact .keep same (ih hold.symm hnew.symm)
    | removed a =>
      obtain ⟨o, old, rfl, _, hold⟩ := List.map_eq_cons_iff.mp hold.symm
      exact .remove (ih hold.symm hnew)
    | added a =>
      obtain ⟨n, new, rfl, _, hnew⟩ := List.map_eq_cons_iff.mp hnew.symm
      exact .add (ih hold hnew.symm)

/-- What is kept, is common to both lists. -/
theorem sublist_keys_of_alignment [LawfulBEq κ] {steps : List Step} (h : Alignment steps old new) :
    ∃ common : List κ, common.length = steps.count .keep ∧ common.Sublist (old.map Token.key) ∧
      common.Sublist (new.map Token.key) := by
  induction h with
  | nil => exact ⟨[], rfl, .slnil, .slnil⟩
  | @keep steps a b old new hs _ ih =>
    obtain ⟨common, hc, hold, hnew⟩ := ih
    have same : a.key = b.key := eq_of_beq hs
    refine ⟨a.key :: common, ?_, hold.cons_cons _, ?_⟩
    · rw [List.length_cons, hc, List.count_cons_self]
    · rw [same]
      exact hnew.cons_cons _
  | remove _ ih =>
    obtain ⟨common, hc, hold, hnew⟩ := ih
    exact ⟨common, hc, hold.cons _, hnew⟩
  | add _ ih =>
    obtain ⟨common, hc, hold, hnew⟩ := ih
    exact ⟨common, hc, hold, hnew.cons _⟩

end Keys

/-- A diff keeps at least as much as any two subsequences that are the same, element by element. -/
theorem length_le_countP_isKept [BEq α] {old new common common' : List α}
    (hold : common.Sublist old) (hnew : common'.Sublist new)
    (same : List.Forall₂ (fun a b => (a == b) = true) common common') :
    common.length ≤ (diff old new).countP Change.isKept := by
  obtain ⟨steps, aligned, hc⟩ := exists_alignment hold hnew same
  have fewest := edits_script_le aligned
  have counts := aligned.edits_add
  have counts' := (alignment_script old new).edits_add
  rw [← Change.count_keep_map_step, map_step_diff]
  omega

theorem length_le_countP_isKept_of_keys [BEq κ] [LawfulBEq κ] {old new : List (Token κ)}
    {common : List κ} (hold : common.Sublist (old.map Token.key))
    (hnew : common.Sublist (new.map Token.key)) :
    common.length ≤ (diff old new).countP Change.isKept := by
  obtain ⟨l, hl, rfl⟩ := List.sublist_map_iff.mp hold
  obtain ⟨l', hl', heq⟩ := List.sublist_map_iff.mp hnew
  rw [List.length_map]
  refine length_le_countP_isKept hl hl' ?_
  have keys : List.Forall₂ (· = ·) (l.map Token.key) (l'.map Token.key) :=
    List.forall₂_eq_eq_eq ▸ heq
  rw [List.forall₂_map_left_iff, List.forall₂_map_right_iff] at keys
  apply keys.imp
  intro a b h
  rw [Token.beq_def, h, beq_self_eq_true]

/-- The number of elements that a diff keeps is the length of a longest common subsequence of the
keys, so what it removes and adds is the least that any list of changes between the two sequences
does. -/
theorem diff_minimal [BEq κ] [LawfulBEq κ] (old new : List (Token κ)) :
    (∃ common, LongestCommon common (old.map Token.key) (new.map Token.key) ∧
      (diff old new).countP Change.isKept = common.length ∧
      (diff old new).countP Change.isRemoved + (diff old new).countP Change.isAdded =
        old.length + new.length - 2 * common.length) ∧
    ∀ changes : List (Change (Token κ)),
      (changes.filterMap Change.old?).map Token.key = old.map Token.key →
      (changes.filterMap Change.new?).map Token.key = new.map Token.key →
      (diff old new).countP Change.isRemoved + (diff old new).countP Change.isAdded ≤
        changes.countP Change.isRemoved + changes.countP Change.isAdded := by
  have aligned := alignment_script old new
  constructor
  · obtain ⟨common, hc, hold, hnew⟩ := sublist_keys_of_alignment aligned
    rw [← map_step_diff, Change.count_keep_map_step] at hc
    refine ⟨common, ⟨hold, hnew, ?_⟩, hc.symm, ?_⟩
    · intro other hother hother'
      rw [hc]
      exact length_le_countP_isKept_of_keys hother hother'
    · have counts := aligned.edits_add
      rw [← map_step_diff, Change.edits_map_step, Change.count_keep_map_step] at counts
      omega
  · intro changes hold hnew
    rw [← Change.edits_map_step, ← Change.edits_map_step, map_step_diff]
    exact edits_script_le (alignment_of_keys hold hnew)

/-- Between `A, b, c` and `c, a, B`, compared without regard to case. -/
theorem diff_minimal_rotation : LawfulBEq Char ∧ ∃ common,
    LongestCommon common ['a', 'b', 'c'] ['c', 'a', 'b'] ∧
    (diff [⟨'a', ['A']⟩, ⟨'b', ['b']⟩, ⟨'c', ['c']⟩]
      [⟨'c', ['c']⟩, ⟨'a', ['a']⟩, ⟨'b', ['B']⟩] : List (Change (Token Char))).countP
        Change.isKept = common.length := by
  refine ⟨inferInstance, ?_⟩
  obtain ⟨⟨common, longest, hkept, _⟩, _⟩ := diff_minimal (κ := Char)
    [⟨'a', ['A']⟩, ⟨'b', ['b']⟩, ⟨'c', ['c']⟩] [⟨'c', ['c']⟩, ⟨'a', ['a']⟩, ⟨'b', ['B']⟩]
  exact ⟨common, longest, hkept⟩

end Morphing
