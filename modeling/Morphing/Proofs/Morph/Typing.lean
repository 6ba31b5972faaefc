import Mathlib.Algebra.Ring.Nat
import Mathlib.Data.List.TakeDrop
import Morphing.Proofs.Diff.Shape
import Morphing.Proofs.Line.Pairing
import Morphing.Proofs.Line.Write
import Morphing.Proofs.Morph.Completion
import Morphing.Proofs.Text.Segmentation

/-!
# From nothing, a text is typed

A morph that begins with an empty text has nothing to remove: all lines are added, and typed from
the first one on, each from its beginning. A line is begun as long as the contents of the lines
before it leave something of the budget, even if it is blank and costs nothing. So the lines that are
begun come before all others, and all of them but the last are complete.
-/

namespace Morphing

/-- The number of characters in the contents of the lines before a position. -/
def contentBefore (ls : List Text) (j : Nat) : Nat :=
  ((ls.take j).map fun l => (Text.content l).length).sum

/-- What is typed of the line at a position: as much of its content as the lines before it leave of
the amount, and its terminator, unless they leave nothing. -/
def typedAt (amount : Nat) (ls : List Text) (j : Nat) : Text :=
  match ls[j]? with
  | some l =>
    if contentBefore ls j < amount then
      (Text.content l).take (amount - contentBefore ls j) ++ Text.terminator l
    else []
  | none => []

section Lines

variable {ls : List Text} {amount j : Nat}

theorem contentBefore_succ (hj : j < ls.length) :
    contentBefore ls (j + 1) = contentBefore ls j + (Text.content ls[j]).length := by
  rw [contentBefore, List.take_succ_eq_append_getElem hj, List.map_append, List.sum_append]
  rfl

theorem contentBefore_cons_succ (l : Text) (ls : List Text) (j : Nat) :
    contentBefore (l :: ls) (j + 1) = (Text.content l).length + contentBefore ls j := by
  rw [contentBefore, List.take_succ_cons, List.map_cons, List.sum_cons]
  rfl

theorem typedAt_cons_zero (options : Options) (amount : Nat) (l : Text) (ls : List Text) :
    typedAt amount (l :: ls) 0 = (LinePair.pureInsertion l).piece options amount := by
  rw [LinePair.piece]
  split
  next none =>
    subst none
    rfl
  next some => exact if_pos (Nat.pos_of_ne_zero some)

/-- The first line leaves less for all others. -/
theorem typedAt_cons_succ (amount : Nat) (l : Text) (ls : List Text) (j : Nat) :
    typedAt amount (l :: ls) (j + 1) = typedAt (amount - (Text.content l).length) ls j := by
  have begun : (Text.content l).length + contentBefore ls j < amount ↔
      contentBefore ls j < amount - (Text.content l).length := by omega
  simp only [typedAt, List.getElem?_cons_succ, contentBefore_cons_succ, begun, Nat.sub_sub]

/-- A line is complete if something is left for the next one. -/
theorem typedAt_of_lt (hj : j < ls.length) (h : contentBefore ls (j + 1) < amount) :
    typedAt amount ls j = ls[j] := by
  rw [contentBefore_succ hj] at h
  have begun : contentBefore ls j < amount := by omega
  have enough : (Text.content ls[j]).length ≤ amount - contentBefore ls j := by omega
  rw [typedAt, List.getElem?_eq_getElem hj]
  simp only [if_pos begun, List.take_of_length_le enough, Text.content_append_terminator]

theorem typedAt_zero (ls : List Text) (j : Nat) : typedAt 0 ls j = [] := by
  rw [typedAt]
  split <;> rfl

/-- The lines for which something is left come before all others. -/
theorem exists_shown (ls : List Text) (amount : Nat) :
    ∃ shown ≤ ls.length, ∀ j < ls.length, contentBefore ls j < amount ↔ j < shown := by
  induction ls generalizing amount with
  | nil => exact ⟨0, Nat.le_refl 0, fun j hj => absurd hj (Nat.not_lt_zero j)⟩
  | cons l ls ih =>
    obtain rfl | more := Nat.eq_zero_or_pos amount
    · exact ⟨0, Nat.zero_le _, fun j _ => by simp⟩
    · obtain ⟨shown, hle, hshown⟩ := ih (amount - (Text.content l).length)
      refine ⟨shown + 1, Nat.succ_le_succ hle, ?_⟩
      intro j hj
      cases j with
      | zero => exact iff_of_true more (Nat.succ_pos shown)
      | succ j =>
        have later := hshown j (Nat.lt_of_succ_lt_succ hj)
        rw [contentBefore_cons_succ]
        omega

end Lines

/-! ### All lines are added -/

theorem pairLines_map_added (pairing : LinePairing) (ls : List Text) :
    pairLines pairing (ls.map .added) = ls.map .pureInsertion := by
  induction ls with
  | nil => rfl
  | cons l ls ih => exact congrArg (.pureInsertion l :: ·) ih

theorem linePairs_nil_left (pairing : LinePairing) (new : Text) :
    linePairs pairing [] new = (Text.lines new).map .pureInsertion := by
  have added : Granularity.line.diff [] new = (Text.lines new).map .added := diff_nil_left _
  rw [linePairs, added, pairLines_map_added]

/-- Added lines share a budget by their positions. -/
theorem written_map_pureInsertion (options : Options) (amount : Nat) (ls : List Text) :
    written options amount (ls.map .pureInsertion) =
      (List.range ls.length).flatMap (typedAt amount ls) := by
  induction ls generalizing amount with
  | nil => rfl
  | cons l ls ih =>
    rw [List.map_cons, written, ih, List.length_cons, List.range_succ_eq_map, List.flatMap_cons,
      List.flatMap_map, typedAt_cons_zero options]
    simp only [typedAt_cons_succ]
    rfl

theorem totalCost_map_pureInsertion (options : Options) (ls : List Text) :
    totalCost options (ls.map .pureInsertion) = contentBefore ls ls.length := by
  induction ls with
  | nil => rfl
  | cons l ls ih =>
    rw [List.map_cons, totalCost, ih, List.length_cons, contentBefore_cons_succ]
    rfl

namespace Morph

/-- From an empty text, a morph types the lines of the new one in order. Of each line it shows as
many characters as the contents of those before it leave of the budget, and its terminator, but
nothing at all where they leave nothing. The lines that it shows come before all others, those in
front of the last one are complete, and it spends what their contents cost, as far as the budget
goes. -/
theorem run_from_nothing (new : Text) (options : Options) (b : Budget) :
    let ls := Text.lines new
    let typed := (Morph.mk [] new options).run b
    typed.text = (List.range ls.length).flatMap (typedAt b.remaining ls) ∧
      (∃ shown ≤ ls.length,
        (∀ j < ls.length, contentBefore ls j < b.remaining ↔ j < shown) ∧
        ∀ j (hj : j < ls.length), j + 1 < shown → typedAt b.remaining ls j = ls[j]) ∧
      (b.remaining = 0 → typed.text = []) ∧
      typed.budget.spent = b.spent + min b.remaining (contentBefore ls ls.length) ∧
      typed.budget.remaining = b.remaining - contentBefore ls ls.length := by
  intro ls typed
  have text : typed.text = (List.range ls.length).flatMap (typedAt b.remaining ls) := by
    rw [text_run, pairs, linePairs_nil_left, written_map_pureInsertion]
  have budget : typed.budget = b.spendUpTo (contentBefore ls ls.length) := by
    rw [budget_run, pairs, linePairs_nil_left, totalCost_map_pureInsertion]
  refine ⟨text, ?_, ?_, ?_, ?_⟩
  · obtain ⟨shown, hle, hshown⟩ := exists_shown ls b.remaining
    refine ⟨shown, hle, hshown, ?_⟩
    intro j hj next
    exact typedAt_of_lt hj ((hshown (j + 1) (Nat.lt_of_lt_of_le next hle)).mpr next)
  · intro none
    rw [text, none, List.flatMap_eq_nil_iff]
    intro j _
    exact typedAt_zero ls j
  · rw [budget, Budget.spent_spendUpTo, Nat.min_comm]
  · rw [budget, Budget.remaining_spendUpTo]

/-- Three units type the first line, and it takes a fourth one to show the blank line behind it. -/
theorem run_from_nothing_blank :
    let new : Text := ['a', 'b', 'c', '\n', '\n', 'd']
    ((Morph.mk [] new {}).run (.ofNat 3)).text = ['a', 'b', 'c', '\n'] ∧
      ((Morph.mk [] new {}).run (.ofNat 4)).text = new ∧
      contentBefore (Text.lines new) 2 < 4 ∧
      typedAt 4 (Text.lines new) 1 = ['\n'] ∧
      (Budget.ofNat 0).remaining = 0 ∧ ((Morph.mk [] new {}).run (.ofNat 0)).text = [] := by
  intro new
  obtain ⟨three, -, -⟩ := run_from_nothing new {} (.ofNat 3)
  obtain ⟨four, ⟨shown, -, prefixOf, complete⟩, -⟩ := run_from_nothing new {} (.ofNat 4)
  obtain ⟨-, -, none, -⟩ := run_from_nothing new {} (.ofNat 0)
  have left : contentBefore (Text.lines new) 2 < 4 := by decide
  have next : 2 < shown := (prefixOf 2 (by decide)).mp left
  exact ⟨three.trans (by decide), four.trans (by decide), left, complete 1 (by decide) next, rfl,
    none rfl⟩

/-! ### A single line -/

section Line

variable {line : Text}

end Line

end Morph

end Morphing
