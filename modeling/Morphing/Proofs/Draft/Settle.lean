import Morphing.Draft.Settle
import Morphing.Proofs.Budget
import Morphing.Proofs.Draft.Settled
import Morphing.Proofs.Draft.Superposition

/-!
# Settling a superposition

A draft that superposes a list of changes can always be settled: the most recent candidate of a kind
is the last change of that kind, and removing it leaves the superposition of the others. So the two
loops of `Draft.settle` decide as `settled` does, and one unit is spent for each candidate as long
as the budget lasts.
-/

namespace Morphing

namespace Draft

theorem popCandidate?_eq_none {d : Draft} {kind : Candidate} (h : d.candidates kind = []) :
    d.popCandidate? kind = none := by
  obtain ⟨chars, removals, insertions⟩ := d
  cases kind with
  | removal =>
    cases removals with
    | nil => rfl
    | cons i rest => cases h
  | insertion =>
    cases insertions with
    | nil => rfl
    | cons i rest => cases h

theorem exists_popCandidate? {d : Draft} {kind : Candidate} {i : Nat} {rest : List Nat}
    (h : d.candidates kind = i :: rest) :
    ∃ popped, d.popCandidate? kind = some (i, popped) ∧ popped.text = d.text ∧
      ∀ other, popped.candidates other = if other = kind then rest else d.candidates other := by
  obtain ⟨chars, removals, insertions⟩ := d
  cases kind with
  | removal =>
    cases removals with
    | nil => cases h
    | cons j removals =>
      cases h
      refine ⟨_, rfl, rfl, ?_⟩
      intro other
      cases other <;> rfl
  | insertion =>
    cases insertions with
    | nil => cases h
    | cons j insertions =>
      cases h
      refine ⟨_, rfl, rfl, ?_⟩
      intro other
      cases other <;> rfl

/-! ### One step at a time -/

section Steps

variable {d popped rest : Draft} {b b' : Budget} {i : Nat} {c : Char}

theorem strikeRemovals_of_none (hpop : d.popCandidate? .removal = none) :
    d.strikeRemovals b = .ok (d, b) := by
  rw [strikeRemovals]
  split
  · rfl
  · split
    · rfl
    next h => cases hpop.symm.trans h

theorem strikeRemovals_of_exhausted (hb : b.spend? = none) : d.strikeRemovals b = .ok (d, b) := by
  rw [strikeRemovals, hb]

theorem strikeRemovals_of_remove (hb : b.spend? = some b')
    (hpop : d.popCandidate? .removal = some (i, popped)) (hremove : popped.remove i = .ok (c, rest)) :
    d.strikeRemovals b = rest.strikeRemovals b' := by
  rw [strikeRemovals, hb]
  simp only
  split
  next h => cases hpop.symm.trans h
  next h =>
    cases hpop.symm.trans h
    split
    next h => cases hremove.symm.trans h; rfl
    next h => cases hremove.symm.trans h

theorem confirmInsertions_of_none (hpop : d.popCandidate? .insertion = none) :
    d.confirmInsertions b = .ok (d, b) := by
  rw [confirmInsertions]
  split
  · rfl
  next h => cases hpop.symm.trans h

theorem confirmInsertions_of_confirm (hb : b.spend? = some b')
    (hpop : d.popCandidate? .insertion = some (i, popped)) :
    d.confirmInsertions b = popped.confirmInsertions b' := by
  rw [confirmInsertions]
  split
  next h => cases hpop.symm.trans h
  next h =>
    cases hpop.symm.trans h
    simp only [hb]

theorem confirmInsertions_of_remove (hb : b.spend? = none)
    (hpop : d.popCandidate? .insertion = some (i, popped))
    (hremove : popped.remove i = .ok (c, rest)) :
    d.confirmInsertions b = rest.confirmInsertions b := by
  rw [confirmInsertions]
  split
  next h => cases hpop.symm.trans h
  next h =>
    cases hpop.symm.trans h
    simp only [hb]
    split
    next h => cases hremove.symm.trans h; rfl
    next h => cases hremove.symm.trans h

end Steps

end Draft

/-- A list with candidates of a kind has a last one. -/
theorem exists_last_candidate (kind : Candidate) {cs : List (Change α)} {count : Nat}
    (h : cs.countP kind.marks = count + 1) :
    ∃ front a back, cs = front ++ kind.mark a :: back ∧ (∀ c ∈ back, kind.marks c = false) ∧
      (front ++ back).countP kind.marks = count := by
  induction cs generalizing count with
  | nil => cases h
  | cons c cs ih =>
    obtain none | some := Nat.eq_zero_or_pos (cs.countP kind.marks)
    · rw [List.countP_cons, none, Nat.zero_add] at h
      obtain ⟨a, rfl⟩ : ∃ a, c = kind.mark a := by
        apply Candidate.exists_eq_mark
        by_contra hc
        rw [if_neg hc] at h
        cases h
      rw [Candidate.marks_mark, decide_eq_true rfl, if_pos rfl] at h
      refine ⟨[], a, cs, rfl, by simpa using List.countP_eq_zero.mp none, ?_⟩
      rw [List.nil_append, none]
      omega
    · obtain ⟨fewer, hfewer⟩ := Nat.exists_eq_add_of_le' some
      obtain ⟨front, a, back, rfl, hback, hcount⟩ := ih hfewer
      refine ⟨c :: front, a, back, rfl, hback, ?_⟩
      rw [List.countP_cons] at h
      rw [List.cons_append, List.countP_cons, hcount]
      omega

/-- Past a removed place, places move up by one. -/
theorem map_shiftPast_findIdxs {p : α → Bool} {front back : List α} {a : α} (ha : p a = false) :
    ((front ++ a :: back).findIdxs p).map (shiftPast front.length) =
      (front ++ back).findIdxs p := by
  have before : (front.findIdxs p).map (shiftPast front.length) = front.findIdxs p := by
    conv_rhs => rw [← List.map_id (front.findIdxs p)]
    apply List.map_congr_left
    intro i hi
    have := List.lt_add_of_mem_findIdxs i hi
    rw [shiftPast, if_neg (by omega), id]
  have after : (back.findIdxs p (front.length + 1)).map (shiftPast front.length) =
      back.findIdxs p front.length := by
    rw [List.findIdxs_start (s := front.length + 1), List.findIdxs_start (s := front.length),
      List.map_map]
    apply List.map_congr_left
    intro i _
    rw [Function.comp_apply, shiftPast, if_pos (by omega)]
    omega
  rw [List.findIdxs_append, List.findIdxs_append, List.findIdxs_cons, ha, List.map_append, before,
    Nat.zero_add]
  exact congrArg (_ ++ ·) after

namespace Draft.Superposes

variable {d : Draft} {cs front back : List (Change Char)} {b : Budget}

theorem popCandidate?_eq_none {kind : Candidate} (h : d.Superposes cs)
    (none : ∀ c ∈ cs, kind.marks c = false) : d.popCandidate? kind = .none := by
  apply Draft.popCandidate?_eq_none
  rw [h.candidates, List.findIdxs_eq_nil_iff.mpr none, List.reverse_nil]

/-- The most recent candidate is the last one. Taking it off its stack keeps its character. -/
theorem exists_popCandidate? {kind : Candidate} {a : Char}
    (h : d.Superposes (front ++ kind.mark a :: back)) (last : ∀ c ∈ back, kind.marks c = false) :
    ∃ popped, d.popCandidate? kind = some (front.length, popped) ∧
      popped.Superposes (front ++ .kept a :: back) := by
  have none : ∀ s, back.findIdxs kind.marks s = [] := fun s => List.findIdxs_eq_nil_iff.mpr last
  have most : d.candidates kind = front.length :: (front.findIdxs kind.marks).reverse := by
    rw [h.candidates, List.findIdxs_append, List.findIdxs_cons, none]
    simp
  obtain ⟨popped, hpop, htext, hcandidates⟩ := Draft.exists_popCandidate? most
  refine ⟨popped, hpop, ?_, ?_⟩
  · rw [htext, h.text]
    simp
  · intro other
    rw [hcandidates]
    by_cases same : other = kind
    · subst same
      rw [if_pos rfl, List.findIdxs_append, List.findIdxs_cons, none]
      simp
    · rw [if_neg same, h.candidates, List.findIdxs_append, List.findIdxs_append,
        List.findIdxs_cons, List.findIdxs_cons]
      simp [same]

/-- Removing a kept character leaves the superposition of the others. -/
theorem exists_remove {a : Char} (h : d.Superposes (front ++ .kept a :: back)) :
    ∃ rest, d.remove front.length = .ok (a, rest) ∧ rest.Superposes (front ++ back) := by
  have inside : front.length < d.text.length := by
    rw [h.length_text, List.length_append, List.length_cons]
    omega
  obtain ⟨c, rest, hremove, hc, htext, hcandidates⟩ := remove_eq_ok inside
  have same : c = a := by
    rw [h.text, List.map_append, List.getElem?_append_right (by simp)] at hc
    simpa [eq_comm] using hc
  subst same
  refine ⟨rest, hremove, ?_, ?_⟩
  · rw [htext, h.text, List.map_append, List.eraseIdx_append_of_length_le (by simp)]
    simp
  · intro kind
    rw [hcandidates, h.candidates, List.map_reverse,
      map_shiftPast_findIdxs (Candidate.marks_kept kind c)]

/-- Removal candidates are struck out from the last one backwards, while the budget lasts. -/
theorem strikeRemovals_spec (h : d.Superposes cs) (b : Budget) :
    ∃ d' cs', d.strikeRemovals b = .ok (d', b.spendUpTo (cs.countP Change.isRemoved)) ∧
      d'.Superposes cs' ∧ cs'.countP Change.isAdded = cs.countP Change.isAdded ∧
      ∀ confirmed, settled b.remaining confirmed cs = settled 0 confirmed cs' := by
  generalize hcount : cs.countP Change.isRemoved = count
  induction count generalizing d cs b with
  | zero =>
    have none : ∀ c ∈ cs, c.isRemoved = false := by simpa using List.countP_eq_zero.mp hcount
    refine ⟨d, cs, ?_, h, rfl, ?_⟩
    · rw [strikeRemovals_of_none (h.popCandidate?_eq_none none), Budget.spendUpTo_zero]
    · intro confirmed
      apply settled_congr
      · rw [hcount, Nat.min_zero, Nat.min_zero]
      · rfl
  | succ count ih =>
    by_cases hb : b.remaining = 0
    · refine ⟨d, cs, ?_, h, rfl, ?_⟩
      · rw [strikeRemovals_of_exhausted (Budget.spend?_eq_none_iff.mpr hb),
          Budget.spendUpTo_of_exhausted hb]
      · intro confirmed
        rw [hb]
    · obtain ⟨front, a, back, rfl, hback, hfewer⟩ :=
        exists_last_candidate .removal hcount
      obtain ⟨popped, hpop, hpopped⟩ := h.exists_popCandidate? hback
      obtain ⟨rest, hremove, hrest⟩ := hpopped.exists_remove
      have hspend := Budget.spend?_of_pos (Nat.pos_of_ne_zero hb)
      obtain ⟨d', cs', hstrike, h', hadded, hsettled⟩ := ih hrest (b.spendUpTo 1) hfewer
      refine ⟨d', cs', ?_, h', ?_, ?_⟩
      · rw [strikeRemovals_of_remove hspend hpop hremove, hstrike, Budget.spendUpTo_spendUpTo,
          Nat.add_comm 1 count]
      · rw [hadded]
        simp [Candidate.mark]
      · intro confirmed
        have one : b.remaining = (b.spendUpTo 1).remaining + 1 := by
          rw [Budget.remaining_spendUpTo]
          omega
        rw [one, ← hsettled]
        exact settled_strike hback

/-- Insertion candidates are confirmed from the last one backwards, while the budget lasts, and then
taken back. -/
theorem confirmInsertions_spec (h : d.Superposes cs) (b : Budget) :
    ∃ d', d.confirmInsertions b = .ok (d', b.spendUpTo (cs.countP Change.isAdded)) ∧
      d'.text = settled 0 b.remaining cs := by
  generalize hcount : cs.countP Change.isAdded = count
  induction count generalizing d cs b with
  | zero =>
    have none : ∀ c ∈ cs, c.isAdded = false := by simpa using List.countP_eq_zero.mp hcount
    refine ⟨d, ?_, ?_⟩
    · rw [confirmInsertions_of_none (h.popCandidate?_eq_none none), Budget.spendUpTo_zero]
    · rw [h.text, settled_of_no_added none]
  | succ count ih =>
    obtain ⟨front, a, back, rfl, hback, hfewer⟩ :=
      exists_last_candidate .insertion hcount
    obtain ⟨popped, hpop, hpopped⟩ := h.exists_popCandidate? hback
    by_cases hb : b.remaining = 0
    · obtain ⟨rest, hremove, hrest⟩ := hpopped.exists_remove
      obtain ⟨d', hconfirm, htext⟩ := ih hrest b hfewer
      have hspend := Budget.spend?_eq_none_iff.mpr hb
      refine ⟨d', ?_, ?_⟩
      · rw [confirmInsertions_of_remove hspend hpop hremove, hconfirm,
          Budget.spendUpTo_of_exhausted hb, Budget.spendUpTo_of_exhausted hb]
      · rw [htext, hb]
        exact settled_takeBack.symm
    · have hspend := Budget.spend?_of_pos (Nat.pos_of_ne_zero hb)
      have hkept : (front ++ .kept a :: back).countP Change.isAdded = count := by
        rw [List.countP_append, List.countP_cons_of_neg (by simp), ← List.countP_append]
        exact hfewer
      obtain ⟨d', hconfirm, htext⟩ := ih hpopped (b.spendUpTo 1) hkept
      refine ⟨d', ?_, ?_⟩
      · rw [confirmInsertions_of_confirm hspend hpop, hconfirm, Budget.spendUpTo_spendUpTo,
          Nat.add_comm 1 count]
      · have one : b.remaining = (b.spendUpTo 1).remaining + 1 := by
          rw [Budget.remaining_spendUpTo]
          omega
        rw [htext, one]
        exact (settled_confirm hback).symm

/-- A superposition is settled as `settled` says, at one unit for each candidate. -/
theorem settle_spec (h : d.Superposes cs) (b : Budget) :
    ∃ d', d.settle b =
        .ok (d', b.spendUpTo (cs.countP Change.isRemoved + cs.countP Change.isAdded)) ∧
      d'.text = settled b.remaining (b.remaining - cs.countP Change.isRemoved) cs ∧
      ∀ kind, d'.candidates kind = [] := by
  obtain ⟨d₁, cs₁, hstrike, h₁, hcount, hsettled⟩ := h.strikeRemovals_spec b
  obtain ⟨d₂, hconfirm, htext⟩ :=
    h₁.confirmInsertions_spec (b.spendUpTo (cs.countP Change.isRemoved))
  refine ⟨d₂.clearCandidates, ?_, ?_, candidates_clearCandidates d₂⟩
  · rw [settle, hstrike]
    simp only [bind, Except.bind, hconfirm, hcount, Budget.spendUpTo_spendUpTo]
    rfl
  · rw [text_clearCandidates, htext, Budget.remaining_spendUpTo, hsettled]

end Draft.Superposes

end Morphing
