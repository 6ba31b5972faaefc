import Morphing.Line.Pairing
import Morphing.Proofs.Diff.Normal
import Morphing.Proofs.Text.Lines

/-!
# Pairs of lines keep the new lines

However removed lines are paired, every kept or added line has one pair, in the order of the diff,
and every removed line is used once. So the new lines of the pairs of two texts are the lines of the
new text. All lines of the pairs are lines of one of the two texts.
-/

namespace Morphing

namespace Change

/-- The element that a change removes, if any. -/
@[simp] def removed? : Change α → Option α
  | removed a => some a
  | kept _ | added _ => none

end Change

namespace LinePair

/-- The kept or added line of the diff that a pair stands for, if any. -/
def change? : LinePair → Option (Change Text)
  | kept line => some (.kept line)
  | pureInsertion line | modification _ line => some (.added line)
  | unpairedRemoval _ => none

/-- The removed line that a pair uses, if any. -/
def removed? : LinePair → Option Text
  | unpairedRemoval line | modification line _ => some line
  | kept _ | pureInsertion _ => none

/-- The line that a pair leads to, if any. -/
def new? : LinePair → Option Text
  | kept line | pureInsertion line | modification _ line => some line
  | unpairedRemoval _ => none

/-- The lines that a pair is about. -/
def lines : LinePair → List Text
  | kept line | pureInsertion line | unpairedRemoval line => [line]
  | modification old new => [old, new]

end LinePair

section Equations

variable (pairing : LinePairing) (line old : Text) (waiting : List Text)
  (changes : List (Change Text))

@[simp] theorem pairLinesWith_nil :
    pairLinesWith pairing waiting [] = waiting.reverse.map .unpairedRemoval := by
  cases waiting <;> rfl

@[simp] theorem pairLinesWith_removed :
    pairLinesWith pairing waiting (.removed line :: changes) =
      pairLinesWith pairing (line :: waiting) changes := by
  cases waiting <;> rfl

@[simp] theorem pairLinesWith_added_nil :
    pairLinesWith pairing [] (.added line :: changes) =
      .pureInsertion line :: pairLinesWith pairing [] changes := rfl

@[simp] theorem pairLinesWith_added_cons :
    pairLinesWith pairing (old :: waiting) (.added line :: changes) =
      .modification old line :: pairLinesWith pairing waiting changes := rfl

@[simp] theorem pairLinesWith_kept :
    pairLinesWith pairing waiting (.kept line :: changes) =
      match pairing with
      | .stack => .kept line :: pairLinesWith pairing waiting changes
      | .adjacent =>
        waiting.reverse.map .unpairedRemoval ++ .kept line :: pairLinesWith pairing [] changes := by
  cases waiting <;> cases pairing <;> rfl

end Equations

/-- Lines that are kept in front of all others leave no trace. -/
theorem pairLines_map_kept_append (pairing : LinePairing) (kept : List Text)
    (changes : List (Change Text)) :
    pairLines pairing (kept.map .kept ++ changes) = kept.map .kept ++ pairLines pairing changes := by
  induction kept with
  | nil => rfl
  | cons line kept ih =>
    cases pairing with
    | stack | adjacent => exact congrArg (.kept line :: ·) ih

theorem filterMap_change?_unpairedRemovals (waiting : List Text) :
    (waiting.map LinePair.unpairedRemoval).filterMap LinePair.change? = [] := by
  induction waiting with
  | nil => rfl
  | cons line waiting ih => exact ih

/-- The pairs stand for the kept and the added lines, in the order of the diff. -/
theorem filterMap_change?_pairLinesWith (pairing : LinePairing) (waiting : List Text)
    (changes : List (Change Text)) :
    (pairLinesWith pairing waiting changes).filterMap LinePair.change? =
      changes.filter fun c => !c.isRemoved := by
  induction changes generalizing waiting with
  | nil => simpa using filterMap_change?_unpairedRemovals waiting.reverse
  | cons c changes ih =>
    cases c with
    | removed line => simpa using ih (line :: waiting)
    | kept line =>
      cases pairing with
      | stack => simpa [List.filterMap_cons, LinePair.change?] using ih waiting
      | adjacent =>
        rw [pairLinesWith_kept, List.filterMap_append, filterMap_change?_unpairedRemovals,
          List.nil_append]
        exact congrArg (.kept line :: ·) (ih [])
    | added line =>
      cases waiting with
      | nil => exact congrArg (.added line :: ·) (ih [])
      | cons old waiting => exact congrArg (.added line :: ·) (ih waiting)

theorem filterMap_removed?_unpairedRemovals (waiting : List Text) :
    (waiting.map LinePair.unpairedRemoval).filterMap LinePair.removed? = waiting := by
  induction waiting with
  | nil => rfl
  | cons line waiting ih => exact congrArg (line :: ·) ih

/-- The pairs use every removed line once, those that wait included. -/
theorem perm_filterMap_removed?_pairLinesWith (pairing : LinePairing) (waiting : List Text)
    (changes : List (Change Text)) :
    ((pairLinesWith pairing waiting changes).filterMap LinePair.removed?).Perm
      (waiting ++ changes.filterMap Change.removed?) := by
  induction changes generalizing waiting with
  | nil =>
    rw [pairLinesWith_nil, filterMap_removed?_unpairedRemovals, List.filterMap_nil, List.append_nil]
    exact waiting.reverse_perm
  | cons c changes ih =>
    cases c with
    | removed line =>
      rw [pairLinesWith_removed]
      exact (ih (line :: waiting)).trans List.perm_middle.symm
    | kept line =>
      cases pairing with
      | stack => exact pairLinesWith_kept .stack line waiting changes ▸ ih waiting
      | adjacent =>
        rw [pairLinesWith_kept, List.filterMap_append, filterMap_removed?_unpairedRemovals]
        exact waiting.reverse_perm.append (ih [])
    | added line =>
      cases waiting with
      | nil => exact ih []
      | cons old waiting => exact (ih waiting).cons old

theorem filterMap_new?_change? (pairs : List LinePair) :
    (pairs.filterMap LinePair.change?).filterMap Change.new? = pairs.filterMap LinePair.new? := by
  rw [List.filterMap_filterMap]
  exact List.filterMap_congr (by rintro (_ | _ | _ | _) _ <;> rfl)

/-- Every kept or added line has one pair, in the order of the diff. -/
theorem filterMap_new?_pairLinesWith (pairing : LinePairing) (waiting : List Text)
    (changes : List (Change Text)) :
    (pairLinesWith pairing waiting changes).filterMap LinePair.new? =
      changes.filterMap Change.new? := by
  rw [← filterMap_new?_change?, filterMap_change?_pairLinesWith, List.filterMap_filter]
  exact List.filterMap_congr (by rintro (_ | _ | _) _ <;> rfl)

theorem LinePair.mem_lines_iff {pair : LinePair} {l : Text} :
    l ∈ pair.lines ↔ pair.removed? = some l ∨ ∃ c, pair.change? = some c ∧ c.item = l := by
  cases pair <;> simp [lines, removed?, change?, eq_comm]

/-- The lines that pairs are about are those of the diff. -/
theorem exists_item_eq_of_mem_pairLines {pairing : LinePairing} {changes : List (Change Text)}
    {pair : LinePair} {l : Text} (hpair : pair ∈ pairLines pairing changes) (hl : l ∈ pair.lines) :
    ∃ c ∈ changes, c.item = l := by
  obtain removed | ⟨c, stands, hc⟩ := LinePair.mem_lines_iff.mp hl
  · have used := (perm_filterMap_removed?_pairLinesWith pairing [] changes).mem_iff.mp
      (List.mem_filterMap.mpr ⟨pair, hpair, removed⟩)
    obtain ⟨c, hmem, hc⟩ := List.mem_filterMap.mp used
    cases c with
    | removed line => exact ⟨_, hmem, Option.some.inj hc⟩
    | kept line | added line => cases hc
  · have shown := List.mem_filterMap.mpr ⟨pair, hpair, stands⟩
    rw [pairLines, filterMap_change?_pairLinesWith] at shown
    exact ⟨c, List.mem_of_mem_filter shown, hc⟩

/-- The pairs of two texts lead to the lines of the new text. -/
theorem filterMap_new?_linePairs (pairing : LinePairing) (old new : Text) :
    (linePairs pairing old new).filterMap LinePair.new? = Text.lines new := by
  rw [linePairs, pairLines, filterMap_new?_pairLinesWith, Granularity.diff, filterMap_new?_diff]
  rfl

/-- All lines of the pairs of two texts are lines of one of the texts. -/
theorem exists_mem_lines_of_mem_linePairs {pairing : LinePairing} {old new : Text} :
    ∀ pair ∈ linePairs pairing old new, ∀ l ∈ pair.lines, ∃ t, l ∈ Text.lines t := by
  intro pair hpair l hl
  obtain ⟨c, hc, rfl⟩ := exists_item_eq_of_mem_pairLines hpair hl
  obtain hmem | hmem := item_mem_of_mem_diff hc
  · exact ⟨old, hmem⟩
  · exact ⟨new, hmem⟩

theorem isLine_of_mem_linePairs {pairing : LinePairing} {old new : Text} :
    ∀ pair ∈ linePairs pairing old new, ∀ l ∈ pair.lines, Text.IsLine l := by
  intro pair hpair l hl
  obtain ⟨t, ht⟩ := exists_mem_lines_of_mem_linePairs pair hpair l hl
  exact Text.isLine_of_mem_lines ht

end Morphing
