import Morphing.Proofs.Diff.Alignment
import Morphing.Proofs.Text.Words

/-!
# What a diff lists

A diff carries out a script that aligns the two sequences, with removals first. So it lists the old
sequence in its kept and removed elements and the new one in its kept and added ones, and between
two kept elements the removed ones come before the added ones.

The texts of a diff of two texts fit together again, since nothing is lost when a text is split.
-/

namespace Morphing

namespace Diff

section Replay

variable [BEq α] {steps : List Step} {old new : List α}

theorem Alignment.map_step (h : Alignment steps old new) :
    (replay steps old new).map Change.step = steps := by
  induction h with
  | nil => rfl
  | keep _ _ ih | remove _ ih | add _ ih => exact congrArg (_ :: ·) ih

/-- Without the additions, an aligned diff is the old sequence. -/
theorem Alignment.filterMap_old? (h : Alignment steps old new) :
    (replay steps old new).filterMap Change.old? = old := by
  induction h with
  | nil => rfl
  | keep _ _ ih | remove _ ih => exact congrArg (_ :: ·) ih
  | add _ ih => exact ih

/-- Without the removals, it shows the new one. -/
theorem Alignment.shows (h : Alignment steps old new) :
    List.Forall₂ Change.Shows ((replay steps old new).filter fun c => !c.isRemoved) new := by
  induction h with
  | nil => exact .nil
  | keep hs _ ih => exact .cons (.kept hs) ih
  | remove _ ih => exact ih
  | @add _ b _ _ _ ih => exact .cons (.added b) ih

theorem Alignment.filterMap_new? [LawfulBEq α] (h : Alignment steps old new) :
    (replay steps old new).filterMap Change.new? = new := by
  induction h with
  | nil => rfl
  | keep hs _ ih =>
    rw [← eq_of_beq hs]
    exact congrArg (_ :: ·) ih
  | remove _ ih => exact ih
  | add _ ih => exact congrArg (_ :: ·) ih

end Replay

section Script

variable [BEq α] (old new : List α)

theorem alignment_script : Alignment (script old new) old new := by
  have path := (Grid.ofLists old new).path_script
  have held : Path (Grid.ofLists old new) (script old new) 0 0 old.length new.length := by
    rw [Grid.width_ofLists, Grid.height_ofLists] at path
    exact Path.holdAdditions path
  exact Alignment.of_path held rfl rfl

theorem removalsFirst_script : RemovalsFirst (script old new) :=
  removalsFirst_holdAdditions 0 _

/-- No alignment has fewer edits than the script. -/
theorem edits_script_le {steps : List Step} {old new : List α} (h : Alignment steps old new) :
    edits (script old new) ≤ edits steps := by
  have path := h.path [] []
  rw [script, removalsFirst, edits_holdAdditions, Nat.zero_add]
  apply Grid.edits_script_le
  rw [Grid.width_ofLists, Grid.height_ofLists]
  exact path

end Script

end Diff

open Diff

@[simp] theorem map_step_diff [BEq α] (old new : List α) :
    (diff old new).map Change.step = script old new :=
  (alignment_script old new).map_step

@[simp] theorem filterMap_old?_diff [BEq α] (old new : List α) :
    (diff old new).filterMap Change.old? = old :=
  (alignment_script old new).filterMap_old?

@[simp] theorem filterMap_new?_diff [BEq α] [LawfulBEq α] (old new : List α) :
    (diff old new).filterMap Change.new? = new :=
  (alignment_script old new).filterMap_new?

/-- Every change is about an element of one of the two sequences. -/
theorem item_mem_of_mem_diff [BEq α] [LawfulBEq α] {old new : List α} {c : Change α}
    (h : c ∈ diff old new) : c.item ∈ old ∨ c.item ∈ new := by
  cases c with
  | kept a | removed a =>
    left
    rw [← filterMap_old?_diff old new]
    exact List.mem_filterMap.mpr ⟨_, h, rfl⟩
  | added a =>
    right
    rw [← filterMap_new?_diff old new]
    exact List.mem_filterMap.mpr ⟨_, h, rfl⟩

namespace Change

/-- After an added element, only added ones come before the next kept one. -/
theorem filters_of_added {b : α} {run : List (Change α)}
    (first : RemovalsFirst ((added b :: run).map step)) (edited : ∀ c ∈ run, c.isKept = false) :
    run.filter isRemoved = [] ∧ run.filter isAdded = run := by
  induction run generalizing b with
  | nil => exact ⟨rfl, rfl⟩
  | cons c run ih =>
    obtain ⟨hc, hrun⟩ := List.forall_mem_cons.mp edited
    cases c with
    | kept a => cases hc
    | removed a => exact absurd ⟨rfl, rfl⟩ (List.isChain_cons_cons.mp first).1
    | added a =>
      obtain ⟨hr, ha⟩ := ih (List.IsChain.of_cons first) hrun
      exact ⟨hr, congrArg (added a :: ·) ha⟩

/-- Without kept elements, a list of changes in which no added element stands directly before a
removed one lists what is removed, then what is added. -/
theorem eq_filter_append_filter {run : List (Change α)} (first : RemovalsFirst (run.map step))
    (edited : ∀ c ∈ run, c.isKept = false) : run = run.filter isRemoved ++ run.filter isAdded := by
  induction run with
  | nil => rfl
  | cons c run ih =>
    obtain ⟨hc, hrun⟩ := List.forall_mem_cons.mp edited
    cases c with
    | kept a => cases hc
    | removed a => exact congrArg (removed a :: ·) (ih (List.IsChain.of_cons first) hrun)
    | added b =>
      obtain ⟨hr, ha⟩ := filters_of_added first hrun
      have removals : (added b :: run).filter isRemoved = [] := hr
      have additions : (added b :: run).filter isAdded = added b :: run :=
        congrArg (added b :: ·) ha
      rw [removals, additions, List.nil_append]

/-- Up to its first kept element, such a list has removed elements, then added ones. -/
theorem exists_run {cs : List (Change α)} (first : RemovalsFirst (cs.map step)) :
    ∃ (rs as : List α) (rest : List (Change α)), cs = rs.map removed ++ (as.map added ++ rest) ∧
      ∀ c ∈ rest.head?, c.isKept = true := by
  induction cs with
  | nil =>
    refine ⟨[], [], [], rfl, ?_⟩
    intro c hc
    cases hc
  | cons c cs ih =>
    cases c with
    | kept a =>
      refine ⟨[], [], kept a :: cs, rfl, ?_⟩
      intro c hc
      cases hc
      rfl
    | removed a =>
      obtain ⟨rs, as, rest, rfl, hrest⟩ := ih (List.IsChain.of_cons first)
      exact ⟨a :: rs, as, rest, rfl, hrest⟩
    | added a =>
      obtain ⟨rs, as, rest, rfl, hrest⟩ := ih (List.IsChain.of_cons first)
      cases rs with
      | nil => exact ⟨[], a :: as, rest, rfl, hrest⟩
      | cons r rs => exact absurd ⟨rfl, rfl⟩ (List.isChain_cons_cons.mp first).1

end Change

namespace Text

@[simp] theorem flatten_lines (t : Text) : (lines t).flatten = t := List.flatten_splitBy _ t

end Text

@[simp] theorem Granularity.flatten_split (g : Granularity) (t : Text) :
    (g.split t).flatten = t := by
  cases g with
  | line => exact Text.flatten_lines t
  | word => exact Text.flatten_words t
  | character => exact Text.flatten_characters t

/-- A diff is an alignment in normal form: it is the old sequence but for its additions, shows the
new one but for its removals, and lists removals first wherever it keeps nothing. The diffs of two
texts put both of them together again. -/
theorem diff_normal [BEq κ] (old new : List (Token κ)) :
    (diff old new).filterMap Change.old? = old ∧
    List.Forall₂ Change.Shows ((diff old new).filter fun c => !c.isRemoved) new ∧
    (∀ before run after, diff old new = before ++ run ++ after →
      (∀ c ∈ run, c.isKept = false) →
      run = run.filter Change.isRemoved ++ run.filter Change.isAdded) ∧
    ∀ (g : Granularity) (t u : Text),
      ((g.diff t u).filterMap Change.old?).flatten = t ∧
      ((g.diff t u).filterMap Change.new?).flatten = u := by
  refine ⟨filterMap_old?_diff old new, (alignment_script old new).shows, ?_, ?_⟩
  · intro before run after hdiff edited
    have first := removalsFirst_script old new
    rw [← map_step_diff, hdiff, List.map_append, List.map_append] at first
    exact Change.eq_filter_append_filter (first.left_of_append.right_of_append) edited
  · intro g t u
    rw [Granularity.diff, filterMap_old?_diff, filterMap_new?_diff]
    exact ⟨g.flatten_split t, g.flatten_split u⟩

end Morphing
