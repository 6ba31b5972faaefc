import Mathlib.Order.Monotone.Basic
import Morphing.Proofs.Morph.Progress

/-!
# One unit, one character

What a pair of lines appends is a content with a terminator behind it. A unit that the pair still
asks for changes its content by one character: a unit strikes out a character of the old line,
confirms one of the new line or types one of an added line. All other units leave it as it is.

The distances of the pairs lie behind one another. So the unit on top of a budget falls within one
pair only: those before it have all they ask for, and those behind it have nothing either way.
-/

namespace Morphing

/-- One of two sequences has one element more than the other. -/
def OneApart (s t : List α) : Prop := OneMore s t ∨ OneMore t s

theorem OneApart.ne {s t : List α} (h : OneApart s t) : t ≠ s := by
  obtain more | less := h
  · exact more.ne
  · exact less.ne.symm

/-! ### Contents -/

namespace LinePair

/-- The terminator that a pair of lines appends when this much of the budget is left. -/
def ending (budget : Nat) : LinePair → Text
  | kept line => Text.terminator line
  | unpairedRemoval _ => []
  | pureInsertion line => if budget = 0 then [] else Text.terminator line
  | modification _ new => Text.terminator new

/-- What a pair of lines appends before its terminator when this much of the budget is left. -/
def body (options : Options) (budget : Nat) : LinePair → Text
  | kept line => Text.content line
  | unpairedRemoval _ => []
  | pureInsertion line => (Text.content line).take budget
  | modification old new =>
    settled budget (budget - (changes options old new).countP Change.isRemoved)
      (changes options old new)

variable {options : Options} {budget : Nat}

theorem piece_eq (options : Options) (budget : Nat) (pair : LinePair) :
    pair.piece options budget = pair.body options budget ++ pair.ending budget := by
  cases pair with
  | kept line => exact (Text.content_append_terminator line).symm
  | unpairedRemoval line | modification old new => rfl
  | pureInsertion line =>
    rw [piece, body, ending]
    split
    next none => rw [none, List.take_zero, List.append_nil]
    next => rfl

/-- While a pair of lines asks for more, one unit changes one character. -/
theorem oneApart_body {pair : LinePair} (h : budget < pair.distance options) :
    OneApart (pair.body options budget) (pair.body options (budget + 1)) := by
  rw [← cost_eq_distance] at h
  cases pair with
  | kept line | unpairedRemoval line => cases h
  | pureInsertion line =>
    refine .inl ⟨(Text.content line).take budget, (Text.content line)[budget], [], ?_, ?_⟩
    · exact (List.append_nil _).symm
    · exact List.take_succ_eq_append_getElem h
  | modification old new =>
    rw [cost] at h
    by_cases strikes : budget < (changes options old new).countP Change.isRemoved
    · -- The unit strikes out a character, and there is none to confirm another.
      have none : budget + 1 - (changes options old new).countP Change.isRemoved =
          budget - (changes options old new).countP Change.isRemoved := by omega
      rw [body, body, none]
      exact .inr (oneMore_settled_strike strikes)
    · -- All are struck out already, and the unit confirms a character.
      have one : budget + 1 - (changes options old new).countP Change.isRemoved =
          budget - (changes options old new).countP Change.isRemoved + 1 := by omega
      have all (confirmed : Nat) : settled (budget + 1) confirmed (changes options old new) =
          settled budget confirmed (changes options old new) :=
        settled_congr (by omega) rfl
      rw [body, body, one, all]
      exact .inl (oneMore_settled_confirm (by omega))

/-- A pair of lines with all it asks for has no use for another unit. -/
theorem body_succ {pair : LinePair} (h : pair.distance options ≤ budget) :
    pair.body options (budget + 1) = pair.body options budget := by
  rw [← cost_eq_distance] at h
  cases pair with
  | kept line | unpairedRemoval line => rfl
  | pureInsertion line =>
    rw [body, body, List.take_of_length_le (Nat.le_succ_of_le h), List.take_of_length_le h]
  | modification old new =>
    rw [cost] at h
    exact settled_congr (by omega) (by omega)

end LinePair

namespace Morph

variable (m : Morph)

/-- What a pair of lines appends to the text of a morph. -/
def appended (amount : Nat) (j : Fin m.pairs.length) : Text :=
  (m.progress (.ofNat amount) (j + 1)).draft.text.drop
    (m.progress (.ofNat amount) j).draft.text.length

/-- The terminator that it ends with. -/
def endingAt (amount : Nat) (j : Fin m.pairs.length) : Text :=
  m.pairs[j].ending (m.progress (.ofNat amount) j).budget.remaining

/-- All before the terminator. -/
def contentAt (amount : Nat) (j : Fin m.pairs.length) : Text :=
  (m.appended amount j).take ((m.appended amount j).length - (m.endingAt amount j).length)

variable {m} (amount : Nat) (j : Fin m.pairs.length)

theorem text_append_appended :
    (m.progress (.ofNat amount) j).draft.text ++ m.appended amount j =
      (m.progress (.ofNat amount) (j + 1)).draft.text := by
  rw [appended, text_progress_succ _ _ j.isLt, List.drop_left]

theorem appended_eq :
    m.appended amount j =
      m.pairs[j].body m.options (m.progress (.ofNat amount) j).budget.remaining ++
        m.endingAt amount j := by
  rw [appended, text_progress_succ _ _ j.isLt, List.drop_left, LinePair.piece_eq]
  rfl

theorem contentAt_eq_body :
    m.contentAt amount j =
      m.pairs[j].body m.options (m.progress (.ofNat amount) j).budget.remaining := by
  rw [contentAt, appended_eq, List.length_append, Nat.add_sub_cancel, List.take_left]

theorem contentAt_append_endingAt :
    m.contentAt amount j ++ m.endingAt amount j = m.appended amount j := by
  rw [contentAt_eq_body, appended_eq]

/-- A pair of lines has what those before it have left of the amount. -/
theorem contentAt_eq :
    m.contentAt amount j = m.pairs[j].body m.options (amount - m.distanceBefore j) := by
  rw [contentAt_eq_body, remaining_progress]

/-! ### Which pair a unit is for -/

theorem distanceBefore_mono : Monotone m.distanceBefore := by
  apply monotone_nat_of_le_succ
  intro j
  obtain hj | hj := Nat.lt_or_ge j m.pairs.length
  · rw [m.distanceBefore_succ hj]
    exact Nat.le_add_right _ _
  · rw [distanceBefore, distanceBefore, List.take_of_length_le hj,
      List.take_of_length_le (Nat.le_succ_of_le hj)]

/-- A unit within the distance of some pairs of lines falls within that of one of them. -/
theorem exists_pair {b count : Nat} (h : b < m.distanceBefore count) (hc : count ≤ m.pairs.length) :
    ∃ j : Fin m.pairs.length, m.distanceBefore j ≤ b ∧ b < m.distanceBefore (j + 1) := by
  induction count with
  | zero => cases h
  | succ count ih =>
    obtain before | here := Nat.lt_or_ge b (m.distanceBefore count)
    · exact ih before (Nat.le_of_succ_le hc)
    · exact ⟨⟨count, hc⟩, here, h⟩

/-- The unit that a pair of lines is the one to ask for changes its content by one character. -/
theorem oneApart_contentAt {b : Nat} {j : Fin m.pairs.length} (reached : m.distanceBefore j ≤ b)
    (wanted : b < m.distanceBefore (j + 1)) :
    OneApart (m.contentAt b j) (m.contentAt (b + 1) j) := by
  rw [m.distanceBefore_succ j.isLt] at wanted
  rw [contentAt_eq, contentAt_eq, Nat.succ_sub reached]
  apply LinePair.oneApart_body
  show _ < m.pairs[(j : Nat)].distance m.options
  omega

/-- No unit before or behind the distance of a pair of lines changes its content. -/
theorem contentAt_succ {b : Nat} {j : Fin m.pairs.length}
    (h : b < m.distanceBefore j ∨ m.distanceBefore (j + 1) ≤ b) :
    m.contentAt (b + 1) j = m.contentAt b j := by
  rw [contentAt_eq, contentAt_eq]
  obtain before | behind := h
  · rw [Nat.sub_eq_zero_of_le before, Nat.sub_eq_zero_of_le (Nat.le_of_lt before)]
  · rw [m.distanceBefore_succ j.isLt] at behind
    rw [Nat.succ_sub (by omega)]
    apply LinePair.body_succ
    show m.pairs[(j : Nat)].distance m.options ≤ _
    omega

/-- Every unit within the distance of a morph inserts or deletes one character in the content of one
of its pairs of lines, and changes no other content. Further units change none. -/
theorem one_unit_one_character (m : Morph) :
    (∀ amount, (m.run (.ofNat amount)).budget.spent = min amount m.distance ∧
      (m.run (.ofNat amount)).text = (m.progress (.ofNat amount) m.pairs.length).draft.text ∧
      ∀ j : Fin m.pairs.length, (m.progress (.ofNat amount) (j + 1)).draft.text =
        (m.progress (.ofNat amount) j).draft.text ++
          (m.contentAt amount j ++ m.endingAt amount j)) ∧
    (∀ b < m.distance,
      (∃! j, m.contentAt (b + 1) j ≠ m.contentAt b j) ∧
      ∀ j, m.contentAt (b + 1) j ≠ m.contentAt b j →
        OneApart (m.contentAt b j) (m.contentAt (b + 1) j)) ∧
    ∀ b ≥ m.distance, ∀ j, m.contentAt (b + 1) j = m.contentAt b j := by
  refine ⟨?_, ?_, ?_⟩
  · intro amount
    refine ⟨?_, (m.run_eq_progress _).1, ?_⟩
    · rw [budget_run_eq, Budget.spent_spendUpTo, Budget.spent_ofNat, Budget.remaining_ofNat,
        Nat.zero_add, Nat.min_comm]
    · intro j
      rw [contentAt_append_endingAt, text_append_appended]
  · intro b hb
    rw [← distanceBefore_length] at hb
    obtain ⟨j, reached, wanted⟩ := exists_pair hb (Nat.le_refl _)
    have apart := oneApart_contentAt reached wanted
    have only : ∀ i, m.contentAt (b + 1) i ≠ m.contentAt b i → i = j := by
      intro i changed
      by_contra other
      apply changed
      apply contentAt_succ
      obtain before | behind := Nat.lt_or_gt_of_ne (Fin.val_ne_of_ne other)
      · exact .inr ((distanceBefore_mono before).trans reached)
      · exact .inl (wanted.trans_le (distanceBefore_mono behind))
    refine ⟨⟨j, apart.ne, only⟩, ?_⟩
    intro i changed
    rw [only i changed]
    exact apart
  · intro b hb j
    rw [ge_iff_le, ← distanceBefore_length] at hb
    exact contentAt_succ (.inr ((distanceBefore_mono j.isLt).trans hb))

/-- From `cat` to `cut`, the second unit leads from `ct` to `cut` and a third one nowhere. -/
theorem one_unit_one_character_cut :
    let cut : Morph := ⟨['c', 'a', 't'], ['c', 'u', 't'], {}⟩
    1 < cut.distance ∧ 2 ≥ cut.distance ∧ (∃! j, cut.contentAt 2 j ≠ cut.contentAt 1 j) ∧
      (∃ j, cut.contentAt 2 j ≠ cut.contentAt 1 j ∧ cut.contentAt 1 j = ['c', 't'] ∧
        OneApart (cut.contentAt 1 j) (cut.contentAt 2 j)) ∧
      ∀ j, cut.contentAt 3 j = cut.contentAt 2 j := by
  intro cut
  have more : 1 < cut.distance := by decide +kernel
  have enough : 2 ≥ cut.distance := by decide +kernel
  obtain ⟨unique, apart⟩ := (one_unit_one_character cut).2.1 1 more
  have changed : ∃ j, cut.contentAt 2 j ≠ cut.contentAt 1 j ∧ cut.contentAt 1 j = ['c', 't'] := by
    decide +kernel
  obtain ⟨j, differs, one⟩ := changed
  exact ⟨more, enough, unique, ⟨j, differs, one, apart j differs⟩,
    (one_unit_one_character cut).2.2 2 enough⟩

end Morph

end Morphing
