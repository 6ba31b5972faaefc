import Morphing.Proofs.Diff.Minimality
import Morphing.Proofs.Draft.Settled

/-!
# How much two sequences have in common

`commonLength` computes the length of a longest common subsequence by a plain recursion on the two
sequences. A diff keeps exactly as many elements, so `distance`, what is left of both sequences
without them, is the number of elements that it removes and adds.
-/

namespace Morphing

/-- The length of a longest common subsequence. -/
def commonLength [DecidableEq α] : List α → List α → Nat
  | [], _ => 0
  | _ :: _, [] => 0
  | a :: old, b :: new =>
    if a = b then commonLength old new + 1
    else max (commonLength old (b :: new)) (commonLength (a :: old) new)
termination_by old new => old.length + new.length

/-- The number of elements by which two sequences differ. -/
def distance [DecidableEq α] (old new : List α) : Nat :=
  old.length + new.length - 2 * commonLength old new

theorem Change.kept?_sublist_old? (cs : List (Change α)) :
    (cs.filterMap kept?).Sublist (cs.filterMap old?) := by
  induction cs with
  | nil => exact .slnil
  | cons c cs ih =>
    cases c with
    | kept a => exact ih.cons_cons a
    | removed a => exact ih.cons a
    | added a => exact ih

theorem Change.kept?_sublist_new? (cs : List (Change α)) :
    (cs.filterMap kept?).Sublist (cs.filterMap new?) := by
  induction cs with
  | nil => exact .slnil
  | cons c cs ih =>
    cases c with
    | kept a => exact ih.cons_cons a
    | removed a => exact ih
    | added a => exact ih.cons a

section Common

variable [DecidableEq α] {old new : List α}

/-- No common subsequence is longer. -/
theorem length_le_commonLength {common : List α} (hold : common.Sublist old)
    (hnew : common.Sublist new) : common.length ≤ commonLength old new := by
  fun_induction commonLength old new generalizing common with
  | case1 new => rw [List.sublist_nil.mp hold, List.length_nil]
  | case2 a old =>
    rw [List.sublist_nil.mp hnew]
    exact Nat.zero_le _
  | case3 old a new ih =>
    -- All but its first element is common to the two rests.
    have rest := ih hold.tail hnew.tail
    rw [List.length_tail] at rest
    omega
  | case4 a old b new hne ih₁ ih₂ =>
    -- It cannot begin with both first elements, so one of them can be left out.
    cases hold with
    | cons _ hold =>
      have := ih₁ hold hnew
      omega
    | cons_cons _ hold =>
      have := ih₂ (hold.cons_cons a) (List.Sublist.of_cons_of_ne hne hnew)
      omega

/-- One has this length. -/
theorem exists_common (old new : List α) :
    ∃ common : List α, common.Sublist old ∧ common.Sublist new ∧
      common.length = commonLength old new := by
  fun_induction commonLength old new with
  | case1 new => exact ⟨[], List.nil_sublist _, List.nil_sublist _, rfl⟩
  | case2 a old => exact ⟨[], List.nil_sublist _, List.nil_sublist _, rfl⟩
  | case3 old a new ih =>
    obtain ⟨common, hold, hnew, hlength⟩ := ih
    refine ⟨a :: common, hold.cons_cons a, hnew.cons_cons a, ?_⟩
    rw [List.length_cons, hlength]
  | case4 a old b new hne ih₁ ih₂ =>
    obtain ⟨left, hold, hnew, hleft⟩ := ih₁
    obtain ⟨right, hold', hnew', hright⟩ := ih₂
    obtain hle | hle := Nat.le_total (commonLength old (b :: new)) (commonLength (a :: old) new)
    · exact ⟨right, hold', hnew'.cons b, by rw [hright, Nat.max_eq_right hle]⟩
    · exact ⟨left, hold.cons a, hnew, by rw [hleft, Nat.max_eq_left hle]⟩

/-- What is common is in both sequences, and the rest is what they differ by. -/
theorem distance_add_commonLength (old new : List α) :
    distance old new + 2 * commonLength old new = old.length + new.length := by
  obtain ⟨common, hold, hnew, hlength⟩ := exists_common old new
  have inOld := hold.length_le
  have inNew := hnew.length_le
  rw [distance]
  omega

/-- A diff keeps as much as two sequences have in common. -/
theorem countP_isKept_diff (old new : List α) :
    (diff old new).countP Change.isKept = commonLength old new := by
  apply Nat.le_antisymm
  · rw [← length_filterMap_kept?]
    apply length_le_commonLength
    · have kept := Change.kept?_sublist_old? (diff old new)
      rwa [filterMap_old?_diff] at kept
    · have kept := Change.kept?_sublist_new? (diff old new)
      rwa [filterMap_new?_diff] at kept
  · obtain ⟨common, hold, hnew, hlength⟩ := exists_common old new
    rw [← hlength]
    refine length_le_countP_isKept hold hnew (List.forall₂_same.mpr ?_)
    intro a _
    exact beq_self_eq_true a

/-- It removes and adds what they differ by. -/
theorem countP_edits_diff (old new : List α) :
    (diff old new).countP Change.isRemoved + (diff old new).countP Change.isAdded =
      distance old new := by
  have kept := countP_isKept_diff old new
  have hold := length_filterMap_old? (diff old new)
  have hnew := length_filterMap_new? (diff old new)
  have whole := distance_add_commonLength old new
  rw [filterMap_old?_diff] at hold
  rw [filterMap_new?_diff] at hnew
  omega

theorem distance_le (old new : List α) : distance old new ≤ old.length + new.length :=
  Nat.sub_le _ _

end Common

end Morphing
