import Morphing.Proofs.Line.Write
import Morphing.Proofs.Token.Pairing

/-!
# The path of a modified line

In reconcile mode, a modified line goes from the old line to the new one on a path with two
stretches. As long as the budget does not exceed the stale characters, the line is the old one
without its last stale characters. From then on it is the new one without its first fresh
characters, of which there are fewer with every unit. So no line on the path has stale characters
as well as fresh ones.

Both stretches come from cutting a superposition where the budget runs out: whatever lies behind the
cut is decided, whatever lies before it is not.
-/

namespace Morphing

namespace Change

/-- The old version of a line, with its stale characters as removed ones. -/
def oldSide (cs : List (Change α)) : List (Change α) := cs.filter fun c => !c.isAdded

/-- The new version of a line, with its fresh characters as added ones. -/
def newSide (cs : List (Change α)) : List (Change α) := cs.filter fun c => !c.isRemoved

/-- `t` is a version of a line without the last `count` of those characters that `p` picks. -/
def WithoutLast (p : Change α → Bool) (count : Nat) (side : List (Change α)) (t : List α) : Prop :=
  ∃ front back, side = front ++ back ∧ back.countP p = count ∧
    t = (front ++ back.filter fun c => !p c).map item

/-- `t` is a version of a line without the first `count` of those characters that `p` picks. -/
def WithoutFirst (p : Change α → Bool) (count : Nat) (side : List (Change α)) (t : List α) : Prop :=
  ∃ front back, side = front ++ back ∧ front.countP p = count ∧
    t = (front.filter (fun c => !p c) ++ back).map item

section Sides

variable {cs side : List (Change α)} {p : Change α → Bool} {count : Nat} {t : List α}

theorem map_item_filter {f : Change α → Option α}
    (h : ∀ c, f c = if p c then some c.item else none) (cs : List (Change α)) :
    (cs.filter p).map item = cs.filterMap f := by
  induction cs with
  | nil => rfl
  | cons c cs ih =>
    rw [List.filter_cons, List.filterMap_cons, h]
    cases p c with
    | true => exact congrArg (c.item :: ·) ih
    | false => exact ih

theorem map_item_oldSide (cs : List (Change α)) : (oldSide cs).map item = cs.filterMap old? :=
  map_item_filter (by rintro (_ | _ | _) <;> rfl) cs

theorem map_item_newSide (cs : List (Change α)) : (newSide cs).map item = cs.filterMap new? :=
  map_item_filter (by rintro (_ | _ | _) <;> rfl) cs

/-- Without its stale characters, the old version has what both versions have. -/
theorem map_item_filter_oldSide (cs : List (Change α)) :
    ((oldSide cs).filter fun c => !c.isRemoved).map item = cs.filterMap kept? := by
  rw [oldSide, List.filter_filter]
  exact map_item_filter (by rintro (_ | _ | _) <;> rfl) cs

/-- So has the new version without its fresh ones. -/
theorem map_item_filter_newSide (cs : List (Change α)) :
    ((newSide cs).filter fun c => !c.isAdded).map item = cs.filterMap kept? := by
  rw [newSide, List.filter_filter]
  exact map_item_filter (by rintro (_ | _ | _) <;> rfl) cs

theorem countP_isRemoved_oldSide (cs : List (Change α)) :
    (oldSide cs).countP isRemoved = cs.countP isRemoved := by
  rw [oldSide, List.countP_filter]
  exact List.countP_congr (by rintro (_ | _ | _) <;> simp)

theorem countP_isAdded_newSide (cs : List (Change α)) :
    (newSide cs).countP isAdded = cs.countP isAdded := by
  rw [newSide, List.countP_filter]
  exact List.countP_congr (by rintro (_ | _ | _) <;> simp)

theorem filter_eq_self_of_countP (none : side.countP p = 0) :
    (side.filter fun c => !p c) = side := by
  rw [List.filter_eq_self]
  intro c hc
  simpa using List.countP_eq_zero.mp none c hc

theorem WithoutLast.sublist (h : WithoutLast p count side t) : t.Sublist (side.map item) := by
  obtain ⟨front, back, rfl, -, rfl⟩ := h
  exact ((List.Sublist.refl front).append List.filter_sublist).map item

theorem WithoutFirst.sublist (h : WithoutFirst p count side t) : t.Sublist (side.map item) := by
  obtain ⟨front, back, rfl, -, rfl⟩ := h
  exact (List.filter_sublist.append (List.Sublist.refl back)).map item

theorem WithoutLast.eq_of_zero (h : WithoutLast p 0 side t) : t = side.map item := by
  obtain ⟨front, back, rfl, none, rfl⟩ := h
  rw [filter_eq_self_of_countP none]

theorem WithoutFirst.eq_of_zero (h : WithoutFirst p 0 side t) : t = side.map item := by
  obtain ⟨front, back, rfl, none, rfl⟩ := h
  rw [filter_eq_self_of_countP none]

end Sides

end Change

/-! ### The two stretches -/

/-- A list can be cut so that a given number of its elements of a kind lie behind the cut. -/
theorem exists_cut_countP {p : α → Bool} {l : List α} {count : Nat} (h : count ≤ l.countP p) :
    ∃ front back, l = front ++ back ∧ back.countP p = count := by
  induction l with
  | nil => exact ⟨[], [], rfl, (Nat.le_zero.mp h).symm⟩
  | cons a l ih =>
    obtain later | whole := Nat.lt_or_eq_of_le h
    · have inside : count ≤ l.countP p := by
        rw [List.countP_cons] at later
        split at later <;> omega
      obtain ⟨front, back, rfl, hback⟩ := ih inside
      exact ⟨a :: front, back, rfl, hback⟩
    · exact ⟨[], a :: l, rfl, whole.symm⟩

section Stretches

variable {cs : List (Change α)} {struck confirmed : Nat}

/-- With nothing confirmed, the last removed elements are deleted from the old sequence. -/
theorem withoutLast_settled (h : struck ≤ cs.countP Change.isRemoved) :
    Change.WithoutLast Change.isRemoved struck (Change.oldSide cs) (settled struck 0 cs) := by
  obtain ⟨front, back, rfl, hback⟩ := exists_cut_countP h
  refine ⟨Change.oldSide front, Change.oldSide back, List.filter_append .., ?_, ?_⟩
  · rw [Change.countP_isRemoved_oldSide, hback]
  · rw [settled_append, hback, Nat.sub_self, Nat.zero_sub, settled_zero_zero,
      settled_kept (Nat.le_of_eq hback), List.map_append, Change.map_item_oldSide,
      Change.map_item_filter_oldSide]

/-- With everything struck, the first added elements are deleted from the new sequence. -/
theorem withoutFirst_settled (hr : cs.countP Change.isRemoved ≤ struck)
    (ha : confirmed ≤ cs.countP Change.isAdded) :
    Change.WithoutFirst Change.isAdded (cs.countP Change.isAdded - confirmed) (Change.newSide cs)
      (settled struck confirmed cs) := by
  obtain ⟨front, back, rfl, hback⟩ := exists_cut_countP ha
  rw [List.countP_append] at hr
  refine ⟨Change.newSide front, Change.newSide back, List.filter_append .., ?_, ?_⟩
  · rw [Change.countP_isAdded_newSide, List.countP_append, hback, Nat.add_sub_cancel]
  · rw [settled_append, hback, Nat.sub_self, settled_kept (by omega),
      settled_of_le (by omega) (Nat.le_of_eq hback), List.map_append,
      Change.map_item_newSide, Change.map_item_filter_newSide]

/-- A budget that does not exceed the removed elements goes to the last of them. -/
theorem withoutLast_of_le (cs : List (Change α)) (budget : Nat)
    (h : budget ≤ cs.countP Change.isRemoved) :
    Change.WithoutLast Change.isRemoved budget (Change.oldSide cs)
      (settled budget (budget - cs.countP Change.isRemoved) cs) := by
  rw [Nat.sub_eq_zero_of_le h]
  exact withoutLast_settled h

/-- A larger one leaves out the first added elements that it cannot pay for. -/
theorem withoutFirst_of_ge (cs : List (Change α)) (budget : Nat)
    (h : cs.countP Change.isRemoved ≤ budget) :
    Change.WithoutFirst Change.isAdded
      (cs.countP Change.isRemoved + cs.countP Change.isAdded -
        min budget (cs.countP Change.isRemoved + cs.countP Change.isAdded))
      (Change.newSide cs) (settled budget (budget - cs.countP Change.isRemoved) cs) := by
  have paid := withoutFirst_settled h
    (Nat.min_le_right (budget - cs.countP Change.isRemoved) (cs.countP Change.isAdded))
  have same : settled budget (budget - cs.countP Change.isRemoved) cs = settled budget
      (min (budget - cs.countP Change.isRemoved) (cs.countP Change.isAdded)) cs :=
    settled_congr rfl (by omega)
  have unpaid : cs.countP Change.isRemoved + cs.countP Change.isAdded -
        min budget (cs.countP Change.isRemoved + cs.countP Change.isAdded) =
      cs.countP Change.isAdded -
        min (budget - cs.countP Change.isRemoved) (cs.countP Change.isAdded) := by omega
  rw [unpaid, same]
  exact paid

end Stretches

/-- A modified line in reconcile mode is superposed by its old and its new version, with the
candidates as stale and fresh characters. It costs one unit for each of them, as far as the budget
goes, and ends like the new line. With no more units than stale characters, it is the old line
without as many of these, from the right. With no fewer, it is the new line without the fresh
characters, from the left, that are not paid for. -/
theorem modified_line_path (pairing : LinePairing) (old new : Text) {d : Draft} (b : Budget)
    (hd : ∀ kind, d.candidates kind = []) :
    let merged := d.merge .reconcile (Text.content old) (Text.content new)
    let stale := (merged.candidates .removal).length
    let fresh := (merged.candidates .insertion).length
    ∃ (cs : List (Change Char)) (t : Text) (p : Progress),
      (merged.Superposes (d.text.map .kept ++ cs) ∧
        (Change.oldSide cs).map Change.item = Text.content old ∧
        (Change.newSide cs).map Change.item = Text.content new) ∧
      ((LinePair.modification old new).write ⟨pairing, .reconcile⟩ d b = .ok p ∧
        p.draft.text = d.text ++ (t ++ Text.terminator new) ∧
        (∀ kind, p.draft.candidates kind = []) ∧
        p.budget.spent = b.spent + min b.remaining (stale + fresh) ∧
        p.budget.remaining = b.remaining - min b.remaining (stale + fresh)) ∧
      (b.remaining ≤ stale →
        Change.WithoutLast Change.isRemoved b.remaining (Change.oldSide cs) t) ∧
      (stale ≤ b.remaining →
        Change.WithoutFirst Change.isAdded (stale + fresh - min b.remaining (stale + fresh))
          (Change.newSide cs) t) ∧
      (b.remaining = 0 → t = Text.content old) ∧
      (stale + fresh ≤ b.remaining → t = Text.content new) ∧
      (t.Sublist (Text.content old) ∨ t.Sublist (Text.content new)) := by
  intro merged stale fresh
  generalize hcs : superposition .reconcile (Text.content old) (Text.content new) = cs
  have superposes : merged.Superposes (d.text.map .kept ++ cs) :=
    hcs ▸ (Draft.Superposes.of_no_candidates hd).merge _ _ _
  have hstale : stale = cs.countP Change.isRemoved := by
    have := superposes.length_candidates .removal
    rwa [Candidate.marks, List.countP_append, countP_isRemoved_map_kept, Nat.zero_add] at this
  have hfresh : fresh = cs.countP Change.isAdded := by
    have := superposes.length_candidates .insertion
    rwa [Candidate.marks, List.countP_append, countP_isAdded_map_kept, Nat.zero_add] at this
  obtain ⟨hold, hnew⟩ := hcs ▸ superposition_reconcile (Text.content old) (Text.content new)
  rw [← Change.map_item_oldSide] at hold
  rw [← Change.map_item_newSide] at hnew
  obtain ⟨p, written, text, none, budget⟩ :=
    (LinePair.modification old new).write_spec ⟨pairing, .reconcile⟩ b hd
  have first := withoutLast_of_le cs b.remaining
  have second := withoutFirst_of_ge cs b.remaining
  rw [LinePair.piece, LinePair.changes, hcs] at text
  rw [LinePair.cost, LinePair.changes, hcs] at budget
  rw [hstale, hfresh]
  generalize settled b.remaining (b.remaining - cs.countP Change.isRemoved) cs = t at *
  refine ⟨cs, t, p, ⟨superposes, hold, hnew⟩, ⟨written, text, none, ?_, ?_⟩, first, second, ?_, ?_,
    ?_⟩
  · rw [budget, Budget.spent_spendUpTo, Nat.min_comm]
  · rw [budget, Budget.remaining_spendUpTo]
    omega
  · intro empty
    rw [empty] at first
    exact (first (Nat.zero_le _)).eq_of_zero.trans hold
  · intro enough
    have all := second (by omega)
    rw [Nat.min_eq_right enough, Nat.sub_self] at all
    exact all.eq_of_zero.trans hnew
  · obtain few | many := Nat.le_total b.remaining (cs.countP Change.isRemoved)
    · exact .inl (hold ▸ (first few).sublist)
    · exact .inr (hnew ▸ (second many).sublist)

/-- From `cat` to `cut`, one unit strikes out the stale `a`, and no unit is left for the `u`. -/
theorem modified_line_path_cut :
    (∀ kind, Draft.empty.candidates kind = []) ∧
      ∃ (t : Text) (p : Progress),
        (LinePair.modification ['c', 'a', 't', '\n'] ['c', 'u', 't', '\n']).write
          ⟨.stack, .reconcile⟩ .empty (.ofNat 1) = .ok p ∧
        p.draft.text = t ++ ['\n'] ∧ t.Sublist ['c', 'a', 't'] ∧ p.budget.spent = 1 := by
  have none := Draft.candidates_empty
  have stale : ((Draft.empty.merge .reconcile ['c', 'a', 't'] ['c', 'u', 't']).candidates
    .removal).length = 1 := by decide +kernel
  have fresh : ((Draft.empty.merge .reconcile ['c', 'a', 't'] ['c', 'u', 't']).candidates
    .insertion).length = 1 := by decide +kernel
  have path := modified_line_path .stack ['c', 'a', 't', '\n'] ['c', 'u', 't', '\n'] (.ofNat 1) none
  have old : Text.content ['c', 'a', 't', '\n'] = ['c', 'a', 't'] := rfl
  have new : Text.content ['c', 'u', 't', '\n'] = ['c', 'u', 't'] := rfl
  simp only [old, new, stale, fresh] at path
  obtain ⟨cs, t, p, ⟨_, hold, _⟩, ⟨written, text, _, spent, _⟩, first, _⟩ := path
  have sub := (first (Nat.le_refl 1)).sublist
  rw [hold] at sub
  exact ⟨none, t, p, written, text, sub, spent⟩

end Morphing
