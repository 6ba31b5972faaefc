import Mathlib.Data.List.InsertIdx
import Morphing.Proofs.Draft.Marks

/-!
# Positions follow their characters

A draft can be worked on in any order: text is appended, candidates are pushed, popped and
forgotten, characters are removed at any position. Whatever is done, both stacks stay in order and
no position lies further than one behind the end.

A position can lose its character only by a removal right there, while it is still on a stack. As
long as that does not happen, a position stands for the character that was pushed with it, not just
for one that looks the same. To tell equal characters apart, a `Ledger` numbers them as they are
written. It keeps the characters themselves on its stacks and has no positions to shift.
-/

namespace Morphing

namespace Draft

/-- Something that can be done to a draft. -/
inductive Action where
  | append (t : Text)
  | push (kind : Candidate) (c : Char)
  | pop (kind : Candidate)
  | clear
  | remove (i : Nat)
deriving DecidableEq, Repr

/-- Take the most recent candidate of one kind off its stack, if there is one. -/
def pop (d : Draft) (kind : Candidate) : Draft := (d.popCandidate? kind).elim d Prod.snd

/-- Do something to a draft. -/
def act (d : Draft) : Action → Except OutOfRange Draft
  | .append t => .ok (d.append t)
  | .push kind c => .ok (d.pushCandidate kind c)
  | .pop kind => .ok (d.pop kind)
  | .clear => .ok d.clearCandidates
  | .remove i => (d.remove i).map Prod.snd

/-- Do several things to a draft in turn. -/
def actAll (d : Draft) (actions : List Action) : Except OutOfRange Draft := actions.foldlM act d

namespace Action

/-- A removal is in bounds if there is a character at its position. -/
def InBounds (d : Draft) : Action → Prop
  | .remove i => i < d.text.length
  | .append _ | .push _ _ | .pop _ | .clear => True

/-- A removal spares the candidates if its position is on no stack. -/
def Spares (d : Draft) : Action → Prop
  | .remove i => ∀ kind, i ∉ d.candidates kind
  | .append _ | .push _ _ | .pop _ | .clear => True

/-- The text that an action leaves. -/
def textAfter (d : Draft) : Action → Text
  | .append t => d.text ++ t
  | .push _ c => d.text ++ [c]
  | .pop _ | .clear => d.text
  | .remove i => d.text.eraseIdx i

/-- The positions that an action leaves on a stack. -/
def stackAfter (d : Draft) (kind : Candidate) : Action → List Nat
  | .append _ => d.candidates kind
  | .push other _ =>
    if kind = other then d.text.length :: d.candidates kind else d.candidates kind
  | .pop other => if kind = other then (d.candidates kind).tail else d.candidates kind
  | .clear => []
  | .remove i => (d.candidates kind).map (shiftPast i)

end Action

/-- Whether a condition holds of each action at the moment when it is done. -/
def Along (P : Draft → Action → Prop) : Draft → List Action → Prop
  | _, [] => True
  | d, a :: actions => P d a ∧ ∀ e, d.act a = .ok e → Along P e actions

section Actions

variable {d d' : Draft} {a : Action} {actions : List Action}

@[simp] theorem text_pop (d : Draft) (kind : Candidate) : (d.pop kind).text = d.text := by
  rw [pop]
  cases h : d.candidates kind with
  | nil => rw [popCandidate?_eq_none h, Option.elim_none]
  | cons i rest =>
    obtain ⟨popped, hpop, htext, _⟩ := exists_popCandidate? h
    rw [hpop, Option.elim_some, htext]

theorem candidates_pop (d : Draft) (kind other : Candidate) :
    (d.pop kind).candidates other =
      if other = kind then (d.candidates other).tail else d.candidates other := by
  rw [pop]
  cases h : d.candidates kind with
  | nil =>
    rw [popCandidate?_eq_none h, Option.elim_none]
    split
    next same => rw [same, h, List.tail_nil]
    next => rfl
  | cons i rest =>
    obtain ⟨popped, hpop, _, hcandidates⟩ := exists_popCandidate? h
    rw [hpop, Option.elim_some, hcandidates]
    split
    next same => rw [same, h, List.tail_cons]
    next => rfl

/-- What an action does, if it can be done. -/
theorem act_spec (h : d.act a = .ok d') :
    a.InBounds d ∧ d'.text = a.textAfter d ∧ ∀ kind, d'.candidates kind = a.stackAfter d kind := by
  cases a with
  | append t =>
    cases h
    exact ⟨trivial, text_append d t, candidates_append d t⟩
  | push kind c =>
    cases h
    exact ⟨trivial, text_pushCandidate d c kind, candidates_pushCandidate d c kind⟩
  | pop kind =>
    cases h
    exact ⟨trivial, text_pop d kind, candidates_pop d kind⟩
  | clear =>
    cases h
    exact ⟨trivial, text_clearCandidates d, candidates_clearCandidates d⟩
  | remove i =>
    obtain inside | outside := Nat.lt_or_ge i d.text.length
    · obtain ⟨c, rest, hremove, _, htext, hcandidates⟩ := remove_eq_ok inside
      rw [act, hremove] at h
      cases h
      exact ⟨inside, htext, hcandidates⟩
    · rw [act, remove_eq_error outside] at h
      cases h

/-- An action can be done unless it is a removal out of bounds. -/
theorem exists_act (h : a.InBounds d) : ∃ e, d.act a = .ok e := by
  cases a with
  | append t | push kind c | pop kind | clear => exact ⟨_, rfl⟩
  | remove i =>
    obtain ⟨c, rest, hremove, _⟩ := remove_eq_ok h
    exact ⟨rest, by rw [act, hremove]; rfl⟩

theorem actAll_cons (h : d.act a = .ok d') : d.actAll (a :: actions) = d'.actAll actions := by
  rw [actAll, List.foldlM_cons, h]
  rfl

/-- If several actions can be done in turn, then so can the first one, and after it the others. -/
theorem exists_of_actAll_cons (h : d.actAll (a :: actions) = .ok d') :
    ∃ e, d.act a = .ok e ∧ e.actAll actions = .ok d' := by
  cases hact : d.act a with
  | ok e => exact ⟨e, rfl, actAll_cons hact ▸ h⟩
  | error stop =>
    rw [actAll, List.foldlM_cons, hact] at h
    cases h

theorem exists_actAll (inside : Along Action.InBounds d actions) :
    ∃ d', d.actAll actions = .ok d' := by
  induction actions generalizing d with
  | nil => exact ⟨d, rfl⟩
  | cons a actions ih =>
    obtain ⟨e, hact⟩ := exists_act inside.1
    obtain ⟨d', hrun⟩ := ih (inside.2 e hact)
    exact ⟨d', (actAll_cons hact).trans hrun⟩

end Actions

/-! ### Order and bounds -/

section Bounds

variable {d d' : Draft} {a : Action} {actions : List Action}

/-- Whether the stacks of a draft are in order and no position lies further than one behind the end
of the text. -/
structure Ordered (d : Draft) : Prop where
  sorted : ∀ kind, (d.candidates kind).Pairwise (· ≥ ·)
  le_length : ∀ kind, ∀ i ∈ d.candidates kind, i ≤ d.text.length

theorem shiftPast_le_shiftPast (removed : Nat) {i j : Nat} (h : i ≤ j) :
    shiftPast removed i ≤ shiftPast removed j := by
  simp only [shiftPast]
  split <;> split <;> omega

/-- A removal in bounds takes one from the length and from every position that is too large then. -/
theorem shiftPast_le_pred {removed i n : Nat} (inside : removed < n) (h : i ≤ n) :
    shiftPast removed i ≤ n - 1 := by
  simp only [shiftPast]
  split <;> omega

theorem ordered_empty : empty.Ordered where
  sorted kind := by
    rw [candidates_empty]
    exact .nil
  le_length kind := by simp

theorem Ordered.sorted_stackAfter (h : d.Ordered) (a : Action) (kind : Candidate) :
    (a.stackAfter d kind).Pairwise (· ≥ ·) := by
  cases a with
  | append t => exact h.sorted kind
  | push other c =>
    rw [Action.stackAfter]
    split
    · exact (h.sorted kind).cons (h.le_length kind)
    · exact h.sorted kind
  | pop other =>
    rw [Action.stackAfter]
    split
    · exact (h.sorted kind).tail
    · exact h.sorted kind
  | clear => exact .nil
  | remove i => exact (h.sorted kind).map _ fun _ _ hle => shiftPast_le_shiftPast i hle

theorem Ordered.le_length_textAfter (h : d.Ordered) (inside : a.InBounds d) (kind : Candidate) :
    ∀ i ∈ a.stackAfter d kind, i ≤ (a.textAfter d).length := by
  have le := h.le_length kind
  have longer : ∀ t, ∀ i ∈ d.candidates kind, i ≤ (d.text ++ t).length := by
    intro t i hi
    rw [List.length_append]
    exact Nat.le_add_right_of_le (le i hi)
  cases a with
  | append t => exact longer t
  | push other c =>
    rw [Action.stackAfter]
    split
    · exact List.forall_mem_cons.mpr ⟨by simp [Action.textAfter], longer [c]⟩
    · exact longer [c]
  | pop other =>
    rw [Action.stackAfter]
    split
    · exact fun i hi => le i (List.mem_of_mem_tail hi)
    · exact le
  | clear => simp [Action.stackAfter]
  | remove i =>
    rw [Action.stackAfter, List.forall_mem_map]
    intro j hj
    rw [Action.textAfter, List.length_eraseIdx_of_lt inside]
    exact shiftPast_le_pred inside (le j hj)

theorem Ordered.act (h : d.Ordered) (hact : d.act a = .ok d') : d'.Ordered := by
  obtain ⟨inside, htext, hcandidates⟩ := act_spec hact
  constructor
  · intro kind
    rw [hcandidates]
    exact h.sorted_stackAfter a kind
  · intro kind
    rw [hcandidates, htext]
    exact h.le_length_textAfter inside kind

theorem Ordered.actAll (h : d.Ordered) (hrun : d.actAll actions = .ok d') : d'.Ordered := by
  induction actions generalizing d with
  | nil =>
    cases hrun
    exact h
  | cons a actions ih =>
    obtain ⟨e, hact, hrest⟩ := exists_of_actAll_cons hrun
    exact ih (h.act hact) hrest

end Bounds

end Draft

/-! ### Occurrences -/

/-- One occurrence of a character, told apart from all others by the number of characters that were
written before it. -/
structure Occurrence where
  number : Nat
  char : Char
deriving DecidableEq, Repr

/-- What work on a draft has written, what of it is still there, and what is on the stacks, most
recent first. -/
structure Ledger where
  written : Nat
  present : List Occurrence
  tracked : Candidate → List Occurrence

namespace Ledger

/-- A ledger without entries. -/
def empty : Ledger := ⟨0, [], fun _ => []⟩

/-- Write one more character. -/
def write (g : Ledger) (c : Char) : Ledger :=
  { g with written := g.written + 1, present := g.present ++ [⟨g.written, c⟩] }

/-- Enter an action. A pushed character is tracked as itself. -/
def act (g : Ledger) : Draft.Action → Ledger
  | .append t => t.foldl write g
  | .push kind c =>
    { g.write c with
      tracked := fun other =>
        if other = kind then ⟨g.written, c⟩ :: g.tracked other else g.tracked other }
  | .pop kind =>
    { g with
      tracked := fun other => if other = kind then (g.tracked other).tail else g.tracked other }
  | .clear => { g with tracked := fun _ => [] }
  | .remove i => { g with present := g.present.eraseIdx i }

theorem present_push (g : Ledger) (kind : Candidate) (c : Char) :
    (g.act (.push kind c)).present = (g.write c).present := rfl

theorem tracked_push (g : Ledger) (kind other : Candidate) (c : Char) :
    (g.act (.push kind c)).tracked other =
      if other = kind then ⟨g.written, c⟩ :: g.tracked other else g.tracked other := rfl

theorem tracked_pop (g : Ledger) (kind other : Candidate) :
    (g.act (.pop kind)).tracked other =
      if other = kind then (g.tracked other).tail else g.tracked other := rfl

/-- Whether all entries of a ledger are told apart by their numbers. -/
structure Sound (g : Ledger) : Prop where
  present_lt : ∀ o ∈ g.present, o.number < g.written
  tracked_lt : ∀ kind, ∀ o ∈ g.tracked kind, o.number < g.written
  increasing : g.present.Pairwise fun o o' => o.number < o'.number
  decreasing : ∀ kind, (g.tracked kind).Pairwise fun o o' => o.number > o'.number
  apart : ∀ o ∈ g.tracked .removal, o ∉ g.tracked .insertion

section Sound

variable {g : Ledger}

theorem sound_empty : empty.Sound where
  present_lt := by simp [empty]
  tracked_lt := by simp [empty]
  increasing := .nil
  decreasing _ := .nil
  apart := by simp [empty]

theorem Sound.write (h : g.Sound) (c : Char) : (g.write c).Sound where
  present_lt := by
    rw [Ledger.write, List.forall_mem_append, List.forall_mem_singleton]
    exact ⟨fun o ho => Nat.lt_succ_of_lt (h.present_lt o ho), Nat.lt_succ_self _⟩
  tracked_lt kind o ho := Nat.lt_succ_of_lt (h.tracked_lt kind o ho)
  increasing := by
    rw [Ledger.write, List.pairwise_append]
    exact ⟨h.increasing, List.pairwise_singleton _ _, by simpa using h.present_lt⟩
  decreasing := h.decreasing
  apart := h.apart

theorem Sound.append (h : g.Sound) (t : Text) : (t.foldl Ledger.write g).Sound := by
  induction t generalizing g with
  | nil => exact h
  | cons c t ih => exact ih (h.write c)

/-- A pushed occurrence is new to both stacks. -/
theorem Sound.push (h : g.Sound) (kind : Candidate) (c : Char) : (g.act (.push kind c)).Sound where
  present_lt := (h.write c).present_lt
  tracked_lt other := by
    have later : ∀ o ∈ g.tracked other, o.number < g.written + 1 := (h.write c).tracked_lt other
    rw [tracked_push]
    split
    · exact List.forall_mem_cons.mpr ⟨Nat.lt_succ_self _, later⟩
    · exact later
  increasing := (h.write c).increasing
  decreasing other := by
    rw [tracked_push]
    split
    · exact (h.decreasing other).cons (h.tracked_lt other)
    · exact h.decreasing other
  apart := by
    have fresh : ∀ other, ⟨g.written, c⟩ ∉ g.tracked other :=
      fun other tracked => Nat.lt_irrefl _ (h.tracked_lt other _ tracked)
    cases kind with
    | removal => exact List.forall_mem_cons.mpr ⟨fresh .insertion, h.apart⟩
    | insertion =>
      intro o ho
      have old : o ∉ g.tracked .insertion := h.apart o ho
      have other : o ≠ ⟨g.written, c⟩ := fun same => fresh .removal (same ▸ ho)
      simp [tracked_push, old, other]

/-- Nothing can go wrong by leaving entries out. -/
theorem Sound.of_sublist {g' : Ledger} (h : g.Sound) (written : g'.written = g.written)
    (present : g'.present.Sublist g.present)
    (tracked : ∀ kind, (g'.tracked kind).Sublist (g.tracked kind)) : g'.Sound where
  present_lt o ho := written ▸ h.present_lt o (present.subset ho)
  tracked_lt kind o ho := written ▸ h.tracked_lt kind o ((tracked kind).subset ho)
  increasing := h.increasing.sublist present
  decreasing kind := (h.decreasing kind).sublist (tracked kind)
  apart o ho ho' := h.apart o ((tracked _).subset ho) ((tracked _).subset ho')

theorem Sound.act (h : g.Sound) (a : Draft.Action) : (g.act a).Sound := by
  cases a with
  | append t => exact h.append t
  | push kind c => exact h.push kind c
  | pop kind =>
    refine h.of_sublist rfl (List.Sublist.refl _) fun other => ?_
    rw [tracked_pop]
    split
    · exact List.tail_sublist _
    · exact List.Sublist.refl _
  | clear => exact h.of_sublist rfl (List.Sublist.refl _) fun _ => List.nil_sublist _
  | remove i => exact h.of_sublist rfl (List.eraseIdx_sublist _ i) fun _ => List.Sublist.refl _

theorem Sound.actAll (h : g.Sound) (actions : List Draft.Action) :
    (actions.foldl Ledger.act g).Sound := by
  induction actions generalizing g with
  | nil => exact h
  | cons a actions ih => exact ih (h.act a)

/-- Occurrences stand in the order of their numbers. -/
theorem Sound.lt_of_number_lt (h : g.Sound) {i j : Nat} {o o' : Occurrence}
    (hi : g.present[i]? = some o) (hj : g.present[j]? = some o') (lt : o.number < o'.number) :
    i < j := by
  obtain ⟨hi', rfl⟩ := List.getElem?_eq_some_iff.mp hi
  obtain ⟨hj', rfl⟩ := List.getElem?_eq_some_iff.mp hj
  by_contra ge
  obtain before | rfl := Nat.lt_or_eq_of_le (Nat.not_lt.mp ge)
  · exact Nat.lt_asymm lt (List.pairwise_iff_getElem.mp h.increasing j i hj' hi' before)
  · exact Nat.lt_irrefl _ lt

end Sound

end Ledger

namespace Draft

/-- The positions on the stacks of a draft stand for the occurrences on those of a ledger. -/
structure Denotes (d : Draft) (g : Ledger) : Prop where
  text : d.text = g.present.map Occurrence.char
  positions : ∀ kind, (d.candidates kind).map (g.present[·]?) = (g.tracked kind).map some

section Denotes

variable {d d' : Draft} {g : Ledger} {a : Action} {actions : List Action}

theorem denotes_empty : empty.Denotes .empty where
  text := rfl
  positions kind := by cases kind <;> rfl

theorem Denotes.exists_occurrence (h : d.Denotes g) {kind : Candidate} {i : Nat}
    (hi : i ∈ d.candidates kind) : ∃ o ∈ g.tracked kind, g.present[i]? = some o := by
  have denoted := List.mem_map_of_mem (f := (g.present[·]?)) hi
  rw [h.positions, List.mem_map] at denoted
  obtain ⟨o, ho, hsome⟩ := denoted
  exact ⟨o, ho, hsome.symm⟩

theorem Denotes.length (h : d.Denotes g) : d.text.length = g.present.length := by
  rw [h.text, List.length_map]

theorem Denotes.inside (h : d.Denotes g) {kind : Candidate} {i : Nat}
    (hi : i ∈ d.candidates kind) : i < g.present.length := by
  obtain ⟨o, _, hsome⟩ := h.exists_occurrence hi
  exact (List.getElem?_eq_some_iff.mp hsome).1

/-- What is written behind a text moves no position. -/
theorem Denotes.positions_write (h : d.Denotes g) (c : Char) (kind : Candidate) :
    (d.candidates kind).map ((g.write c).present[·]?) = (g.tracked kind).map some := by
  rw [← h.positions]
  apply List.map_congr_left
  intro i hi
  exact List.getElem?_append_left (h.inside hi)

theorem Denotes.write (h : d.Denotes g) (c : Char) : (d.append [c]).Denotes (g.write c) where
  text := by rw [text_append, h.text, Ledger.write, List.map_append]; rfl
  positions kind := by
    rw [candidates_append]
    exact h.positions_write c kind

theorem Denotes.append (h : d.Denotes g) (t : Text) :
    (d.append t).Denotes (t.foldl Ledger.write g) := by
  induction t generalizing d g with
  | nil => exact h
  | cons c t ih => exact ih (h.write c)

/-- A pushed position stands for the character that is pushed with it. -/
theorem Denotes.push (h : d.Denotes g) (kind : Candidate) (c : Char) :
    (d.pushCandidate kind c).Denotes (g.act (.push kind c)) where
  text := by rw [text_pushCandidate, h.text]; simp [Ledger.act, Ledger.write]
  positions other := by
    have here : (g.write c).present[g.present.length]? = some ⟨g.written, c⟩ := by
      simp [Ledger.write]
    rw [candidates_pushCandidate, h.length, Ledger.present_push, Ledger.tracked_push]
    split
    · exact List.cons_eq_cons.mpr ⟨here, h.positions_write c other⟩
    · exact h.positions_write c other

theorem Denotes.pop (h : d.Denotes g) (kind : Candidate) :
    (d.pop kind).Denotes (g.act (.pop kind)) where
  text := (text_pop d kind).trans h.text
  positions other := by
    rw [candidates_pop, Ledger.tracked_pop]
    split
    · rw [List.map_tail, List.map_tail]
      exact congrArg List.tail (h.positions other)
    · exact h.positions other

/-- Past a removed place, the others are found where their positions have moved to. -/
theorem getElem?_eraseIdx_shiftPast {l : List α} {i j : Nat} (h : j ≠ i) :
    (l.eraseIdx i)[shiftPast i j]? = l[j]? := by
  rw [List.getElem?_eraseIdx, shiftPast]
  split
  next behind => rw [if_neg (by omega), Nat.sub_add_cancel (Nat.one_le_of_lt behind)]
  next before => rw [if_pos (by omega)]

/-- A removal that spares the candidates leaves them their occurrences. -/
theorem Denotes.remove (h : d.Denotes g) {i : Nat} (spares : ∀ kind, i ∉ d.candidates kind)
    (htext : d'.text = d.text.eraseIdx i)
    (hcandidates : ∀ kind, d'.candidates kind = (d.candidates kind).map (shiftPast i)) :
    d'.Denotes (g.act (.remove i)) where
  text := by rw [htext, h.text, Ledger.act, List.eraseIdx_map]
  positions kind := by
    rw [hcandidates, List.map_map, Ledger.act, ← h.positions]
    apply List.map_congr_left
    intro j hj
    apply getElem?_eraseIdx_shiftPast
    rintro rfl
    exact spares kind hj

theorem Denotes.act (h : d.Denotes g) (spares : a.Spares d) (hact : d.act a = .ok d') :
    d'.Denotes (g.act a) := by
  cases a with
  | append t =>
    cases hact
    exact h.append t
  | push kind c =>
    cases hact
    exact h.push kind c
  | pop kind =>
    cases hact
    exact h.pop kind
  | clear =>
    cases hact
    exact ⟨h.text, fun kind => by rw [candidates_clearCandidates]; rfl⟩
  | remove i =>
    obtain ⟨_, htext, hcandidates⟩ := act_spec hact
    exact h.remove spares htext hcandidates

theorem Denotes.actAll (h : d.Denotes g) (spares : Along Action.Spares d actions)
    (hrun : d.actAll actions = .ok d') : d'.Denotes (actions.foldl Ledger.act g) := by
  induction actions generalizing d g with
  | nil =>
    cases hrun
    exact h
  | cons a actions ih =>
    obtain ⟨e, hact, hrest⟩ := exists_of_actAll_cons hrun
    exact ih (h.act spares.1 hact) (spares.2 e hact) hrest

/-- Positions that stand for occurrences are in order and apart, as the numbers of these are. -/
theorem Denotes.wellMarked (h : d.Denotes g) (sound : g.Sound) : d.WellMarked where
  sorted kind := by
    have numbers : ((d.candidates kind).map (g.present[·]?)).Pairwise
        fun x y => ∀ o ∈ x, ∀ o' ∈ y, o.number > o'.number := by
      rw [h.positions, List.pairwise_map]
      exact (sound.decreasing kind).imp (by simp)
    apply (List.pairwise_map.mp numbers).imp_of_mem
    intro i j hi hj greater
    obtain ⟨o, _, hio⟩ := h.exists_occurrence hi
    obtain ⟨o', _, hjo⟩ := h.exists_occurrence hj
    exact sound.lt_of_number_lt hjo hio (greater o hio o' hjo)
  inside kind i hi := h.length ▸ h.inside hi
  apart i hr hi := by
    obtain ⟨o, ho, hsome⟩ := h.exists_occurrence hr
    obtain ⟨o', ho', hsome'⟩ := h.exists_occurrence hi
    obtain rfl : o = o' := Option.some.inj (hsome.symm.trans hsome')
    exact sound.apart o ho ho'

end Denotes

/-- Work on an empty draft in which every removal is in bounds can be carried through. It leaves
both stacks in order, and no position further than one behind the end of the text. If no removal
hits a position that is on a stack at that moment, the draft is well marked, and each position
stands for the occurrence that was pushed with it. -/
theorem positions_stable (actions : List Action) (inside : Along Action.InBounds .empty actions) :
    ∃ d, Draft.empty.actAll actions = .ok d ∧
      (∀ kind, (d.candidates kind).Pairwise (· ≥ ·)) ∧
      (∀ kind, ∀ i ∈ d.candidates kind,
        i ≤ d.text.length ∧ (d.text[i]? = none → i = d.text.length)) ∧
      (Along Action.Spares .empty actions →
        d.WellMarked ∧ d.Denotes (actions.foldl Ledger.act .empty) ∧
          (actions.foldl Ledger.act .empty).Sound) := by
  obtain ⟨d, hrun⟩ := exists_actAll inside
  have ordered := ordered_empty.actAll hrun
  refine ⟨d, hrun, ordered.sorted, ?_, ?_⟩
  · intro kind i hi
    have le := ordered.le_length kind i hi
    refine ⟨le, fun dangling => ?_⟩
    exact Nat.le_antisymm le (List.getElem?_eq_none_iff.mp dangling)
  · intro spares
    have sound := Ledger.sound_empty.actAll actions
    have denotes := denotes_empty.actAll spares hrun
    exact ⟨denotes.wellMarked sound, denotes, sound⟩

/-- Of two equal characters the second one stays a candidate when the first one goes, and its
position is still its own. -/
theorem positions_stable_twins :
    let actions : List Action :=
      [.push .removal 'a', .push .insertion 'a', .pop .removal, .remove 0, .append ['b']]
    Along Action.InBounds .empty actions ∧ Along Action.Spares .empty actions ∧
      ∃ d, Draft.empty.actAll actions = .ok d ∧ d.text = ['a', 'b'] ∧
        (d.candidates .insertion).map ([⟨1, 'a'⟩, ⟨2, 'b'⟩][·]?) =
          [some (Occurrence.mk 1 'a')] := by
  intro actions
  have inside : Along Action.InBounds .empty actions := by
    simp [actions, Along, Action.InBounds, act]
  have spares : Along Action.Spares .empty actions := by
    simp only [actions, Along, Action.Spares, act, Except.ok.injEq, forall_eq', true_and]
    refine ⟨?_, by simp⟩
    rintro (_ | _) <;> decide
  obtain ⟨d, hrun, _, _, stable⟩ := positions_stable actions inside
  obtain ⟨_, denotes, _⟩ := stable spares
  exact ⟨inside, spares, d, hrun, denotes.text, denotes.positions .insertion⟩

end Draft

end Morphing
