import Mathlib.Data.List.Sort
import Morphing.Proofs.Draft.Settle

/-!
# Settling in one go

Settling removes one character at a time and renumbers all candidates after each. What it comes to
can be read off the draft as it is before: the largest positions on the stack of removals go, as
many as are paid for, and so do the smallest ones on the stack of insertions that are not paid for.

For this, every candidate has to stand for a character of its own (`Draft.WellMarked`). Such a draft
superposes some changes, and `settled` decides about a change by how many of its kind come after it.
That is the number of larger positions on the stack.
-/

namespace Morphing

/-! ### Positions of a list -/

/-- What is left of a list without the elements at some positions, where the first one has the
position `start`. -/
def withoutFrom (start : Nat) (positions : List Nat) (l : List α) : List α :=
  ((l.zipIdx start).filter fun a => a.2 ∉ positions).map Prod.fst

/-- What is left of a list without the elements at some positions. -/
def without (positions : List Nat) (l : List α) : List α := withoutFrom 0 positions l

/-- The largest of some positions: those with fewer than `count` larger ones. -/
def largest (count : Nat) (positions : List Nat) : List Nat :=
  positions.filter fun i => positions.countP (i < ·) < count

/-- The smallest of some positions: those with fewer than `count` smaller ones. -/
def smallest (count : Nat) (positions : List Nat) : List Nat :=
  positions.filter fun i => positions.countP (· < i) < count

section Positions

variable {k i count : Nat} {positions others : List Nat} {a : α} {l : List α}

theorem withoutFrom_cons (k : Nat) (positions : List Nat) (a : α) (l : List α) :
    withoutFrom k positions (a :: l) =
      if k ∈ positions then withoutFrom (k + 1) positions l
      else a :: withoutFrom (k + 1) positions l := by
  rw [withoutFrom, List.zipIdx_cons, List.filter_cons]
  by_cases h : k ∈ positions <;> simp [h, withoutFrom]

/-- Only which positions there are from the first one on matters. -/
theorem withoutFrom_congr (h : ∀ i, k ≤ i → (i ∈ positions ↔ i ∈ others)) :
    withoutFrom k positions l = withoutFrom k others l := by
  induction l generalizing k with
  | nil => rfl
  | cons a l ih =>
    have later : withoutFrom (k + 1) positions l = withoutFrom (k + 1) others l :=
      ih fun i hi => h i (Nat.le_of_succ_le hi)
    rw [withoutFrom_cons, withoutFrom_cons, later]
    simp only [h k (Nat.le_refl k)]

theorem without_congr (h : ∀ i, i ∈ positions ↔ i ∈ others) :
    without positions l = without others l :=
  withoutFrom_congr fun i _ => h i

theorem mem_largest : i ∈ largest count positions ↔
    i ∈ positions ∧ positions.countP (i < ·) < count := by
  rw [largest, List.mem_filter, decide_eq_true_iff]

theorem mem_smallest : i ∈ smallest count positions ↔
    i ∈ positions ∧ positions.countP (· < i) < count := by
  rw [smallest, List.mem_filter, decide_eq_true_iff]

theorem mem_largest_reverse :
    i ∈ largest count positions.reverse ↔ i ∈ largest count positions := by
  rw [mem_largest, mem_largest, List.mem_reverse, List.countP_reverse]

theorem mem_smallest_reverse :
    i ∈ smallest count positions.reverse ↔ i ∈ smallest count positions := by
  rw [mem_smallest, mem_smallest, List.mem_reverse, List.countP_reverse]

/-- All positions are among the largest if they do not exceed the number. -/
theorem mem_largest_length : i ∈ largest positions.length positions ↔ i ∈ positions := by
  rw [mem_largest, and_iff_left_iff_imp, List.countP_lt_length_iff]
  exact fun hi => ⟨i, hi, by simp⟩

theorem mem_smallest_length : i ∈ smallest positions.length positions ↔ i ∈ positions := by
  rw [mem_smallest, and_iff_left_iff_imp, List.countP_lt_length_iff]
  exact fun hi => ⟨i, hi, by simp⟩

theorem largest_zero (positions : List Nat) : largest 0 positions = [] := by
  rw [largest, List.filter_eq_nil_iff]
  simp

/-- A position before all others is among the largest if the others do not use up the number. -/
theorem largest_cons (h : ∀ i ∈ positions, k < i) :
    largest count (k :: positions) =
      if positions.length < count then k :: largest count positions
      else largest count positions := by
  have above : positions.countP (k < ·) = positions.length :=
    List.countP_eq_length.mpr fun i hi => decide_eq_true (h i hi)
  have same : (positions.filter fun i => (k :: positions).countP (i < ·) < count) =
      largest count positions := by
    apply List.filter_congr
    intro i hi
    rw [List.countP_cons_of_neg (by simpa using Nat.le_of_lt (h i hi))]
  rw [largest, List.filter_cons, same, List.countP_cons_of_neg (by simp), above]
  simp only [decide_eq_true_iff]

theorem smallest_zero (positions : List Nat) : smallest 0 positions = [] := by
  rw [smallest, List.filter_eq_nil_iff]
  simp

/-- It is among the smallest if there are to be any. -/
theorem smallest_cons (h : ∀ i ∈ positions, k < i) :
    smallest count (k :: positions) =
      if 0 < count then k :: smallest (count - 1) positions else [] := by
  have below : positions.countP (· < k) = 0 :=
    List.countP_eq_zero.mpr fun i hi => by simpa using Nat.le_of_lt (h i hi)
  have same : (positions.filter fun i => (k :: positions).countP (· < i) < count) =
      smallest (count - 1) positions := by
    apply List.filter_congr
    intro i hi
    rw [List.countP_cons_of_pos (by simpa using h i hi)]
    exact decide_eq_decide.mpr (by omega)
  rw [smallest, List.filter_cons, same, List.countP_cons_of_neg (by simp), below]
  simp only [decide_eq_true_iff]
  obtain rfl | some := Nat.eq_zero_or_pos count
  · rw [smallest_zero]
  · rw [if_pos some, if_pos some]

end Positions

/-! ### What is decided, by position -/

section Settled

variable {cs : List (Change α)} {struck confirmed : Nat}

theorem lt_of_mem_findIdxs {p : α → Bool} {l : List α} {k : Nat} :
    ∀ i ∈ l.findIdxs p (k + 1), k < i := fun i hi => List.ge_of_mem_findIdxs i hi

/-- The last removed elements that are struck out have the largest positions, and the first added
ones that are not confirmed have the smallest. -/
theorem settled_eq_withoutFrom (struck confirmed : Nat) (cs : List (Change α)) (k : Nat) :
    settled struck confirmed cs =
      withoutFrom k (largest struck (cs.findIdxs Change.isRemoved k) ++
        smallest (cs.countP Change.isAdded - confirmed) (cs.findIdxs Change.isAdded k))
        (cs.map Change.item) := by
  induction cs generalizing k with
  | nil => rfl
  | cons c cs ih =>
    have removedLater : ∀ i ∈ cs.findIdxs Change.isRemoved (k + 1), k < i := lt_of_mem_findIdxs
    have addedLater : ∀ i ∈ cs.findIdxs Change.isAdded (k + 1), k < i := lt_of_mem_findIdxs
    have notRemoved : ∀ count, k ∉ largest count (cs.findIdxs Change.isRemoved (k + 1)) :=
      fun _ hk => Nat.lt_irrefl k (removedLater k (mem_largest.mp hk).1)
    have notAdded : ∀ count, k ∉ smallest count (cs.findIdxs Change.isAdded (k + 1)) :=
      fun _ hk => Nat.lt_irrefl k (addedLater k (mem_smallest.mp hk).1)
    rw [List.map_cons, withoutFrom_cons, List.findIdxs_cons, List.findIdxs_cons]
    cases c with
    | kept a => simp [settled, ih (k + 1), notRemoved, notAdded]
    | removed a =>
      rw [settled, ih (k + 1)]
      simp only [Change.isRemoved, Change.isAdded, if_true, Bool.false_eq_true, if_false,
        List.countP_cons, Nat.add_zero, largest_cons removedLater, List.length_findIdxs,
        Change.item_removed]
      split
      · simp only [List.cons_append, List.mem_cons, true_or, if_true]
        exact withoutFrom_congr fun i hi => by simp [Nat.ne_of_gt hi]
      · rw [if_neg (by simp [notRemoved, notAdded])]
    | added a =>
      rw [settled, ih (k + 1)]
      simp only [Change.isRemoved, Change.isAdded, if_true, Bool.false_eq_true, if_false,
        List.countP_cons, smallest_cons addedLater, Change.item_added]
      by_cases paid : cs.countP Change.isAdded < confirmed
      · have zero : cs.countP Change.isAdded - confirmed = 0 := by omega
        have none : ¬0 < cs.countP Change.isAdded + 1 - confirmed := by omega
        rw [if_pos paid, if_neg none, zero, smallest_zero, List.append_nil, if_neg (notRemoved _)]
      · have some : 0 < cs.countP Change.isAdded + 1 - confirmed := by omega
        have fewer : cs.countP Change.isAdded + 1 - confirmed - 1 =
            cs.countP Change.isAdded - confirmed := by omega
        rw [if_neg paid, if_pos some, fewer, if_pos (by simp)]
        exact withoutFrom_congr fun i hi => by simp [Nat.ne_of_gt hi]

end Settled

namespace Draft

/-- The text of a draft without its candidates of one kind. -/
def erase (d : Draft) (kind : Candidate) : Text := without (d.candidates kind) d.text

namespace Superposes

variable {d : Draft} {cs : List (Change Char)}

/-- What is left of a superposition can be read off the stacks and the text of its draft. -/
theorem settled_eq (h : d.Superposes cs) (struck confirmed : Nat) :
    settled struck confirmed cs =
      without (largest struck (d.candidates .removal) ++
        smallest ((d.candidates .insertion).length - confirmed) (d.candidates .insertion))
        d.text := by
  rw [settled_eq_withoutFrom struck confirmed cs 0, h.text, h.length_candidates]
  apply without_congr
  intro i
  rw [h.candidates, h.candidates, List.mem_append, List.mem_append, mem_largest_reverse,
    mem_smallest_reverse]
  rfl

/-- Without its removal candidates, a superposition is the new version. -/
theorem erase_removal (h : d.Superposes cs) : d.erase .removal = cs.filterMap Change.new? := by
  have all := h.settled_eq (d.candidates .removal).length (d.candidates .insertion).length
  rw [settled_of_le (Nat.le_of_eq (h.length_candidates .removal).symm)
    (Nat.le_of_eq (h.length_candidates .insertion).symm), Nat.sub_self, smallest_zero,
    List.append_nil] at all
  rw [all]
  exact without_congr fun i => mem_largest_length.symm

/-- Without its insertion candidates, it is the old one. -/
theorem erase_insertion (h : d.Superposes cs) : d.erase .insertion = cs.filterMap Change.old? := by
  rw [← settled_zero_zero, h.settled_eq, largest_zero, List.nil_append, Nat.sub_zero]
  exact without_congr fun i => mem_smallest_length.symm

end Superposes

/-! ### Well marked drafts -/

/-- Whether every candidate of a draft stands for a character of its own, and on each stack the more
recent ones for later characters. -/
structure WellMarked (d : Draft) : Prop where
  sorted : ∀ kind, (d.candidates kind).Pairwise (· > ·)
  inside : ∀ kind, ∀ i ∈ d.candidates kind, i < d.text.length
  apart : ∀ i ∈ d.candidates .removal, i ∉ d.candidates .insertion

/-- What the stacks of a draft say about the character at a position. -/
def changeAt (d : Draft) (i : Nat) (c : Char) : Change Char :=
  if i ∈ d.candidates .removal then .removed c
  else if i ∈ d.candidates .insertion then .added c
  else .kept c

theorem item_changeAt (d : Draft) (i : Nat) (c : Char) : (d.changeAt i c).item = c := by
  rw [changeAt]
  split
  · rfl
  · split <;> rfl

namespace WellMarked

variable {d : Draft}

theorem marks_changeAt (h : d.WellMarked) (kind : Candidate) (i : Nat) (c : Char) :
    kind.marks (d.changeAt i c) = true ↔ i ∈ d.candidates kind := by
  rw [changeAt]
  by_cases hr : i ∈ d.candidates .removal
  · have hi : i ∉ d.candidates .insertion := h.apart i hr
    cases kind <;> simp [hr, hi, Candidate.marks]
  · by_cases hi : i ∈ d.candidates .insertion <;>
      cases kind <;> simp [hr, hi, Candidate.marks]

/-- A well marked draft superposes what its stacks say about its characters. -/
theorem superposes (h : d.WellMarked) : d.Superposes (d.text.mapIdx d.changeAt) where
  text := by
    apply List.ext_getElem (by simp)
    intro i _ _
    rw [List.getElem_map, List.getElem_mapIdx, item_changeAt]
  candidates kind := by
    apply List.Pairwise.eq_of_mem_iff (h.sorted kind)
    · exact List.pairwise_reverse.mpr List.pairwise_findIdxs
    · intro i
      rw [List.mem_reverse, List.mem_findIdxs_iff_exists_getElem_pos]
      simp only [List.getElem_mapIdx, List.length_mapIdx, h.marks_changeAt kind]
      exact ⟨fun hi => ⟨h.inside kind i hi, hi⟩, fun ⟨_, hi⟩ => hi⟩

/-- Settling a well marked draft never sends a position out of range. With `struck` removals and
`confirmed` insertions paid for, it deletes from the text, all at once, the characters at the
`struck` largest positions of removals and at the smallest positions of insertions, all but
`confirmed` of them. Nothing stays to be decided. -/
theorem settle_eq_without (h : d.WellMarked) (b : Budget) :
    let removals := d.candidates .removal
    let insertions := d.candidates .insertion
    let struck := min b.remaining removals.length
    let confirmed := min (b.remaining - struck) insertions.length
    ∃ d' b', d.settle b = .ok (d', b') ∧
      d'.text = without
        (largest struck removals ++ smallest (insertions.length - confirmed) insertions) d.text ∧
      b'.spent = b.spent + (struck + confirmed) ∧
      b'.remaining = b.remaining - (struck + confirmed) ∧
      ∀ kind, d'.candidates kind = [] := by
  intro removals insertions struck confirmed
  have superposes := h.superposes
  have hr : removals.length = (d.text.mapIdx d.changeAt).countP Change.isRemoved :=
    superposes.length_candidates .removal
  have hi : insertions.length = (d.text.mapIdx d.changeAt).countP Change.isAdded :=
    superposes.length_candidates .insertion
  obtain ⟨d', settles, text, none⟩ := superposes.settle_spec b
  refine ⟨d', _, settles, ?_, ?_, ?_, none⟩
  · rw [text, ← superposes.settled_eq]
    apply settled_congr <;> omega
  · rw [Budget.spent_spendUpTo]
    omega
  · rw [Budget.remaining_spendUpTo]
    omega

/-- One unit strikes out the `e`. With none left, the insertions `d` and `a` go as well, while the
`b` stays although it is stale. -/
theorem settle_eq_without_leftover :
    let d : Draft := ⟨#['a', 'b', 'c', 'd', 'e', 'f'], [4, 1], [3, 0]⟩
    d.WellMarked ∧ ∃ d' b', d.settle (.ofNat 1) = .ok (d', b') ∧ d'.text = ['b', 'c', 'f'] ∧
      b'.spent = 1 ∧ b'.remaining = 0 ∧ ∀ kind, d'.candidates kind = [] := by
  intro d
  have marked : d.WellMarked :=
    { sorted := by rintro (_ | _) <;> decide
      inside := by rintro (_ | _) <;> decide
      apart := by decide }
  obtain ⟨d', b', settles, text, spent, remaining, none⟩ := settle_eq_without marked (.ofNat 1)
  exact ⟨marked, d', b', settles, text.trans (by decide), spent, remaining, none⟩

end WellMarked

end Draft

end Morphing
