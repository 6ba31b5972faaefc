import Mathlib.Data.List.Count
import Morphing.Proofs.Diff.Normal

/-!
# What settling leaves

`settled struck confirmed cs` is what is left of some changes when, counted from the end, this many
removed elements are struck out and this many added ones are confirmed. It lies between the old
sequence, at nothing struck and nothing confirmed, and the new one, when both numbers suffice.

Whether an element is decided depends only on how many of its kind come after it. So `settled`
splits over an append, and deciding about the last element of a kind first takes one off the number
for that kind.
-/

namespace Morphing

/-- The element that both sequences have, if a change is about one. -/
@[simp] def Change.kept? : Change α → Option α
  | kept a => some a
  | removed _ | added _ => none

/-- What is left of some changes when the last `struck` removed elements are struck out and the last
`confirmed` added ones confirmed, and all other added ones are taken back. -/
def settled (struck confirmed : Nat) : List (Change α) → List α
  | [] => []
  | .kept a :: cs => a :: settled struck confirmed cs
  | .removed a :: cs =>
    if cs.countP Change.isRemoved < struck then settled struck confirmed cs
    else a :: settled struck confirmed cs
  | .added a :: cs =>
    if cs.countP Change.isAdded < confirmed then a :: settled struck confirmed cs
    else settled struck confirmed cs

section Settled

variable {cs front back : List (Change α)} {struck confirmed : Nat}

/-- The end of a list is served first. -/
theorem settled_append (struck confirmed : Nat) (front back : List (Change α)) :
    settled struck confirmed (front ++ back) =
      settled (struck - back.countP Change.isRemoved) (confirmed - back.countP Change.isAdded)
        front ++ settled struck confirmed back := by
  induction front with
  | nil => rfl
  | cons c front ih =>
    cases c with
    | kept a => exact congrArg (a :: ·) ih
    | removed a =>
      have same : front.countP Change.isRemoved + back.countP Change.isRemoved < struck ↔
          front.countP Change.isRemoved < struck - back.countP Change.isRemoved := by omega
      rw [List.cons_append, settled, settled, List.countP_append, ih]
      simp only [same]
      split <;> rfl
    | added a =>
      have same : front.countP Change.isAdded + back.countP Change.isAdded < confirmed ↔
          front.countP Change.isAdded < confirmed - back.countP Change.isAdded := by omega
      rw [List.cons_append, settled, settled, List.countP_append, ih]
      simp only [same]
      split <;> rfl

/-- Only as many elements can be decided about as there are. -/
theorem settled_congr {struck' confirmed' : Nat}
    (hr : min struck (cs.countP Change.isRemoved) = min struck' (cs.countP Change.isRemoved))
    (ha : min confirmed (cs.countP Change.isAdded) = min confirmed' (cs.countP Change.isAdded)) :
    settled struck confirmed cs = settled struck' confirmed' cs := by
  induction cs with
  | nil => rfl
  | cons c cs ih =>
    cases c with
    | kept a => exact congrArg (a :: ·) (ih hr ha)
    | removed a =>
      rw [List.countP_cons_of_pos rfl] at hr
      have same : cs.countP Change.isRemoved < struck ↔ cs.countP Change.isRemoved < struck' := by
        omega
      simp only [settled, same, ih (by omega) ha]
    | added a =>
      rw [List.countP_cons_of_pos (p := Change.isAdded) rfl] at ha
      have same : cs.countP Change.isAdded < confirmed ↔ cs.countP Change.isAdded < confirmed' := by
        omega
      simp only [settled, same, ih hr (by omega)]

/-- Where nothing is struck and nothing is added, everything is left. -/
theorem settled_of_no_added (h : ∀ c ∈ cs, c.isAdded = false) :
    settled 0 confirmed cs = cs.map Change.item := by
  induction cs with
  | nil => rfl
  | cons c cs ih =>
    obtain ⟨hc, hcs⟩ := List.forall_mem_cons.mp h
    cases c with
    | kept a | removed a => exact congrArg (a :: ·) (ih hcs)
    | added a => cases hc

/-- With nothing struck and nothing confirmed, the old sequence is left. -/
theorem settled_zero_zero (cs : List (Change α)) :
    settled 0 0 cs = cs.filterMap Change.old? := by
  induction cs with
  | nil => rfl
  | cons c cs ih => cases c <;> simpa [settled, List.filterMap_cons] using ih

/-- With everything struck and everything confirmed, the new one is left. -/
theorem settled_of_le (hr : cs.countP Change.isRemoved ≤ struck)
    (ha : cs.countP Change.isAdded ≤ confirmed) :
    settled struck confirmed cs = cs.filterMap Change.new? := by
  induction cs with
  | nil => rfl
  | cons c cs ih =>
    rw [List.countP_cons] at hr ha
    have rest := ih (by omega) (by omega)
    cases c with
    | kept a => exact congrArg (a :: ·) rest
    | removed a =>
      rw [settled, if_pos (Nat.lt_of_succ_le hr), rest]
      rfl
    | added a =>
      rw [settled, if_pos (Nat.lt_of_succ_le ha), rest]
      rfl

/-- With everything struck and nothing confirmed, what both sequences have is left. -/
theorem settled_kept (hr : cs.countP Change.isRemoved ≤ struck) :
    settled struck 0 cs = cs.filterMap Change.kept? := by
  induction cs with
  | nil => rfl
  | cons c cs ih =>
    rw [List.countP_cons] at hr
    have rest := ih (by omega)
    cases c with
    | kept a => exact congrArg (a :: ·) rest
    | removed a =>
      rw [settled, if_pos (Nat.lt_of_succ_le hr), rest]
      rfl
    | added a => exact rest

theorem length_settled (struck confirmed : Nat) (cs : List (Change α)) :
    (settled struck confirmed cs).length =
      cs.countP Change.isKept + (cs.countP Change.isRemoved - struck) +
        min (cs.countP Change.isAdded) confirmed := by
  induction cs with
  | nil => simp [settled]
  | cons c cs ih =>
    simp only [List.countP_cons]
    cases c with
    | kept a => simp [settled, ih]; omega
    | removed a =>
      simp only [settled]
      split <;> simp [ih] <;> omega
    | added a =>
      simp only [settled]
      split <;> simp [ih] <;> omega

/-- Without confirmations, nothing but old elements is left. -/
theorem settled_sublist_old (struck : Nat) (cs : List (Change α)) :
    (settled struck 0 cs).Sublist (cs.filterMap Change.old?) := by
  induction cs with
  | nil => exact .slnil
  | cons c cs ih =>
    cases c with
    | kept a => exact ih.cons_cons a
    | added a => exact ih
    | removed a =>
      rw [settled]
      split
      · exact ih.cons a
      · exact ih.cons_cons a

/-- While not all removed elements are struck out, the beginning of the old sequence stays. -/
theorem head?_settled (h : struck < cs.countP Change.isRemoved) :
    (settled struck 0 cs).head? = (cs.filterMap Change.old?).head? := by
  induction cs with
  | nil => cases h
  | cons c cs ih =>
    cases c with
    | kept a => rfl
    | added a => exact ih (by simpa [List.countP_cons] using h)
    | removed a =>
      have notLast : ¬cs.countP Change.isRemoved < struck := by
        simp [List.countP_cons] at h
        omega
      rw [settled, if_neg notLast]
      rfl

/-- What both sequences have is as long as the number of kept elements. -/
theorem length_filterMap_kept? (cs : List (Change α)) :
    (cs.filterMap Change.kept?).length = cs.countP Change.isKept := by
  induction cs with
  | nil => rfl
  | cons c cs ih => cases c <;> simpa [List.countP_cons, List.filterMap_cons] using ih

theorem length_filterMap_old? (cs : List (Change α)) :
    (cs.filterMap Change.old?).length =
      cs.countP Change.isKept + cs.countP Change.isRemoved := by
  induction cs with
  | nil => rfl
  | cons c cs ih => cases c <;> simp [List.countP_cons, List.filterMap_cons, ih] <;> omega

theorem length_filterMap_new? (cs : List (Change α)) :
    (cs.filterMap Change.new?).length = cs.countP Change.isKept + cs.countP Change.isAdded := by
  induction cs with
  | nil => rfl
  | cons c cs ih => cases c <;> simp [List.countP_cons, List.filterMap_cons, ih] <;> omega

/-- The new sequence has whatever both sequences have. -/
theorem length_kept?_le_new? (cs : List (Change α)) :
    (cs.filterMap Change.kept?).length ≤ (cs.filterMap Change.new?).length := by
  rw [length_filterMap_kept?, length_filterMap_new?]
  exact Nat.le_add_right _ _

/-- Kept elements in front stay as they are. -/
theorem settled_map_kept_append (struck confirmed : Nat) (t : List α) (cs : List (Change α)) :
    settled struck confirmed (t.map .kept ++ cs) = t ++ settled struck confirmed cs := by
  induction t with
  | nil => rfl
  | cons a t ih => exact congrArg (a :: ·) ih

@[simp] theorem countP_isRemoved_map_kept (t : List α) :
    (t.map Change.kept).countP Change.isRemoved = 0 :=
  List.countP_eq_zero.mpr (by simp)

@[simp] theorem countP_isAdded_map_kept (t : List α) :
    (t.map Change.kept).countP Change.isAdded = 0 :=
  List.countP_eq_zero.mpr (by simp)

@[simp] theorem filterMap_kept?_map_kept (t : List α) :
    (t.map Change.kept).filterMap Change.kept? = t := by
  simp [List.filterMap_map, Function.comp_def]

end Settled

/-! ### Running out of budget -/

section Cut

/-- Where the budget for removals runs out on its way from the end of a list of parts. -/
theorem exists_cut {f : β → List (Change α)} {l : List β} {struck : Nat}
    (h : struck < (l.flatMap f).countP Change.isRemoved) :
    ∃ front b back, l = front ++ b :: back ∧ (back.flatMap f).countP Change.isRemoved ≤ struck ∧
      struck < (f b).countP Change.isRemoved + (back.flatMap f).countP Change.isRemoved := by
  induction l with
  | nil => cases h
  | cons b l ih =>
    by_cases hl : struck < (l.flatMap f).countP Change.isRemoved
    · obtain ⟨front, c, back, rfl, hback, hc⟩ := ih hl
      exact ⟨b :: front, c, back, rfl, hback, hc⟩
    · rw [List.flatMap_cons, List.countP_append] at h
      exact ⟨[], b, l, rfl, Nat.not_lt.mp hl, h⟩

/-- Before that part, the old sequence is left, behind it what both sequences have. -/
theorem settled_cut (front : List (Change α)) {middle back : List (Change α)} {struck : Nat}
    (hback : back.countP Change.isRemoved ≤ struck)
    (hmiddle : struck < middle.countP Change.isRemoved + back.countP Change.isRemoved) :
    settled struck 0 (front ++ middle ++ back) =
      front.filterMap Change.old? ++
        settled (struck - back.countP Change.isRemoved) 0 middle ++
        back.filterMap Change.kept? := by
  have none : struck - back.countP Change.isRemoved - middle.countP Change.isRemoved = 0 := by
    omega
  rw [settled_append, settled_append, settled_kept hback, Nat.zero_sub, Nat.zero_sub, none,
    settled_zero_zero]

end Cut

/-- If what is left is as long as a sequence with at least as many elements as the new one, then all
added elements have been confirmed. -/
theorem countP_isAdded_le {cs : List (Change α)} {n : List α} {struck : Nat}
    (h : settled struck (struck - cs.countP Change.isRemoved) cs = n)
    (hr : cs.countP Change.isRemoved ≤ struck)
    (hn : (cs.filterMap Change.new?).length ≤ n.length) :
    cs.countP Change.isRemoved + cs.countP Change.isAdded ≤ struck := by
  have length := length_settled struck (struck - cs.countP Change.isRemoved) cs
  rw [h] at length
  rw [length_filterMap_new?] at hn
  omega

/-! ### Deciding about the last of a kind -/

section Last

variable {front back : List (Change α)} {a : α} {struck confirmed : Nat}

theorem settled_strike (h : ∀ c ∈ back, c.isRemoved = false) :
    settled (struck + 1) confirmed (front ++ .removed a :: back) =
      settled struck confirmed (front ++ back) := by
  have none : back.countP Change.isRemoved = 0 := List.countP_eq_zero.mpr (by simpa using h)
  have same : settled (struck + 1) confirmed back = settled struck confirmed back := by
    apply settled_congr
    · rw [none, Nat.min_zero, Nat.min_zero]
    · rfl
  rw [settled_append, settled_append, List.countP_cons_of_pos rfl,
    List.countP_cons_of_neg (by simp), settled, if_pos (by omega), none, same]
  rfl

theorem settled_confirm (h : ∀ c ∈ back, c.isAdded = false) :
    settled struck (confirmed + 1) (front ++ .added a :: back) =
      settled struck confirmed (front ++ .kept a :: back) := by
  have none : back.countP Change.isAdded = 0 := List.countP_eq_zero.mpr (by simpa using h)
  have same : settled struck (confirmed + 1) back = settled struck confirmed back := by
    apply settled_congr
    · rfl
    · rw [none, Nat.min_zero, Nat.min_zero]
  simp only [settled_append, settled, List.countP_cons]
  simp [none, same]

theorem settled_takeBack :
    settled struck 0 (front ++ .added a :: back) = settled struck 0 (front ++ back) := by
  rw [settled_append, settled_append, Nat.zero_sub, Nat.zero_sub, settled,
    if_neg (Nat.not_lt_zero _), List.countP_cons_of_neg (by simp)]

end Last

/-! ### One decision more -/

section OneMore

/-- The second sequence has one element more than the first. -/
def OneMore (s t : List α) : Prop := ∃ front a back, s = front ++ back ∧ t = front ++ a :: back

theorem OneMore.cons {s t : List α} (h : OneMore s t) (a : α) : OneMore (a :: s) (a :: t) := by
  obtain ⟨front, c, back, rfl, rfl⟩ := h
  exact ⟨a :: front, c, back, rfl, rfl⟩

theorem OneMore.length {s t : List α} (h : OneMore s t) : t.length = s.length + 1 := by
  obtain ⟨front, a, back, rfl, rfl⟩ := h
  rw [List.length_append, List.length_append, List.length_cons, Nat.add_assoc]

theorem OneMore.ne {s t : List α} (h : OneMore s t) : t ≠ s := by
  intro same
  have length := h.length
  rw [same] at length
  omega

variable {cs : List (Change α)} {struck confirmed : Nat}

/-- To strike out one more takes one element away. -/
theorem oneMore_settled_strike (h : struck < cs.countP Change.isRemoved) :
    OneMore (settled (struck + 1) confirmed cs) (settled struck confirmed cs) := by
  induction cs with
  | nil => cases h
  | cons c cs ih =>
    cases c with
    | kept a => exact (ih h).cons a
    | added a =>
      rw [settled, settled]
      split
      · exact (ih h).cons a
      · exact ih h
    | removed a =>
      rw [List.countP_cons_of_pos rfl] at h
      obtain later | here := Nat.lt_or_eq_of_le (Nat.le_of_lt_succ h)
      · rw [settled, settled, if_neg (by omega), if_neg (by omega)]
        exact (ih later).cons a
      · have rest : settled (struck + 1) confirmed cs = settled struck confirmed cs :=
          settled_congr (by omega) rfl
        rw [settled, settled, if_pos (by omega), if_neg (by omega), rest]
        exact ⟨[], a, _, rfl, rfl⟩

/-- To confirm one more leaves one element more. -/
theorem oneMore_settled_confirm (h : confirmed < cs.countP Change.isAdded) :
    OneMore (settled struck confirmed cs) (settled struck (confirmed + 1) cs) := by
  induction cs with
  | nil => cases h
  | cons c cs ih =>
    cases c with
    | kept a => exact (ih h).cons a
    | removed a =>
      rw [settled, settled]
      split
      · exact ih h
      · exact (ih h).cons a
    | added a =>
      rw [List.countP_cons_of_pos (p := Change.isAdded) rfl] at h
      obtain later | here := Nat.lt_or_eq_of_le (Nat.le_of_lt_succ h)
      · rw [settled, settled, if_neg (by omega), if_neg (by omega)]
        exact ih later
      · have rest : settled struck (confirmed + 1) cs = settled struck confirmed cs :=
          settled_congr rfl (by omega)
        rw [settled, settled, if_neg (by omega), if_pos (by omega), rest]
        exact ⟨[], a, _, rfl, rfl⟩

end OneMore

end Morphing
