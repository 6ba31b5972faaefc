import Mathlib.Data.List.Sort
import Morphing.Proofs.Line.Pairing

/-!
# Added lines match removed ones like brackets

With stack pairing, removed lines open brackets and added lines close them: every added line takes
the nearest removed line before it that no earlier added line has taken, and stays alone only if
there is none. So the pairs are nested or disjoint, and the removed lines that nobody takes come
last.

Equal lines can be removed more than once, so the matching is between positions of the diff.
`waitingAt` is the stack of `pairLinesWith` in terms of positions.
-/

namespace Morphing

namespace Change

variable {α : Type u}

/-- Whether a position of a diff removes an element. -/
def removedAt (changes : List (Change α)) (i : Nat) : Bool := changes[i]?.any isRemoved

/-- Whether a position of a diff adds an element. -/
def addedAt (changes : List (Change α)) (j : Nat) : Bool := changes[j]?.any isAdded

/-- The removals before a position that no addition before it has taken, the last one first. -/
def waitingAt (changes : List (Change α)) : Nat → List Nat
  | 0 => []
  | j + 1 =>
    if removedAt changes j then j :: waitingAt changes j
    else if addedAt changes j then (waitingAt changes j).tail
    else waitingAt changes j

/-- The removal that an addition takes: the last one that waits. -/
def partner (changes : List (Change α)) (j : Nat) : Option Nat :=
  if addedAt changes j then (waitingAt changes j).head? else none

/-- The removal `i` comes before position `j`, and no addition in front of `j` has taken it. -/
def Untaken (changes : List (Change α)) (partner : Nat → Option Nat) (j i : Nat) : Prop :=
  i < j ∧ removedAt changes i = true ∧ ∀ k < j, partner k ≠ some i

instance (changes : List (Change α)) (partner : Nat → Option Nat) (j i : Nat) :
    Decidable (Untaken changes partner j i) :=
  inferInstanceAs (Decidable (_ ∧ _ ∧ _))

/-- Each addition, and nothing else, takes the nearest removal before it that no earlier addition has
taken, unless there is none. -/
structure NearestMatching (changes : List (Change α)) (partner : Nat → Option Nat) : Prop where
  added : ∀ {j i}, partner j = some i → addedAt changes j = true
  nearest : ∀ {j}, addedAt changes j = true → ∀ {i}, partner j = some i ↔
    Untaken changes partner j i ∧ ∀ i', Untaken changes partner j i' → i' ≤ i
  alone : ∀ {j}, addedAt changes j = true →
    (partner j = none ↔ ∀ i, ¬Untaken changes partner j i)

section Positions

variable {changes : List (Change α)} {i j : Nat}

theorem head?_eq_some_iff_of_pairwise {l : List Nat} (h : l.Pairwise (· > ·)) :
    l.head? = some i ↔ i ∈ l ∧ ∀ i' ∈ l, i' ≤ i := by
  cases l with
  | nil => simp
  | cons top below =>
    obtain ⟨above, _⟩ := List.pairwise_cons.mp h
    rw [List.head?_cons, Option.some.injEq, List.forall_mem_cons, List.mem_cons]
    constructor
    · rintro rfl
      exact ⟨.inl rfl, Nat.le_refl _, fun i' hi' => Nat.le_of_lt (above i' hi')⟩
    · rintro ⟨rfl | inside, atTop, -⟩
      · rfl
      · exact absurd (above i inside) (Nat.not_lt_of_le atTop)

theorem mem_tail_of_pairwise {l : List Nat} (h : l.Pairwise (· > ·)) :
    i ∈ l.tail ↔ i ∈ l ∧ l.head? ≠ some i := by
  cases l with
  | nil => simp
  | cons top below =>
    obtain ⟨above, _⟩ := List.pairwise_cons.mp h
    rw [List.tail_cons, List.head?_cons, List.mem_cons, ne_eq, Option.some.injEq]
    constructor
    · intro inside
      exact ⟨.inr inside, Nat.ne_of_gt (above i inside)⟩
    · rintro ⟨rfl | inside, ne⟩
      · exact absurd rfl ne
      · exact inside

theorem addedAt_eq_false (h : removedAt changes j = true) : addedAt changes j = false := by
  rw [removedAt] at h
  rw [addedAt]
  cases hc : changes[j]? with
  | none => rfl
  | some c =>
    rw [hc] at h
    cases c with
    | removed a => rfl
    | kept a | added a => cases h

theorem waitingAt_succ_of_removed (h : removedAt changes j = true) :
    waitingAt changes (j + 1) = j :: waitingAt changes j := by
  rw [waitingAt, if_pos h]

theorem waitingAt_succ_of_added (h : addedAt changes j = true) :
    waitingAt changes (j + 1) = (waitingAt changes j).tail := by
  have other : ¬removedAt changes j = true := by
    intro removed
    rw [addedAt_eq_false removed] at h
    cases h
  rw [waitingAt, if_neg other, if_pos h]

theorem waitingAt_succ_of_other (hr : ¬removedAt changes j = true) (ha : ¬addedAt changes j = true) :
    waitingAt changes (j + 1) = waitingAt changes j := by
  rw [waitingAt, if_neg hr, if_neg ha]

theorem partner_of_added (h : addedAt changes j = true) :
    partner changes j = (waitingAt changes j).head? :=
  if_pos h

theorem partner_of_not_added (h : ¬addedAt changes j = true) : partner changes j = none :=
  if_neg h

/-! ### What waits -/

theorem lt_of_mem_waitingAt (h : i ∈ waitingAt changes j) : i < j := by
  induction j with
  | zero => cases h
  | succ j ih =>
    by_cases hr : removedAt changes j = true
    · rw [waitingAt_succ_of_removed hr, List.mem_cons] at h
      obtain rfl | before := h
      · exact Nat.lt_succ_self i
      · exact Nat.lt_succ_of_lt (ih before)
    by_cases ha : addedAt changes j = true
    · rw [waitingAt_succ_of_added ha] at h
      exact Nat.lt_succ_of_lt (ih (List.mem_of_mem_tail h))
    · rw [waitingAt_succ_of_other hr ha] at h
      exact Nat.lt_succ_of_lt (ih h)

/-- The stack holds later removals above earlier ones. -/
theorem pairwise_waitingAt (changes : List (Change α)) (j : Nat) :
    (waitingAt changes j).Pairwise (· > ·) := by
  induction j with
  | zero => exact .nil
  | succ j ih =>
    by_cases hr : removedAt changes j = true
    · rw [waitingAt_succ_of_removed hr]
      exact ih.cons fun i hi => lt_of_mem_waitingAt hi
    by_cases ha : addedAt changes j = true
    · rw [waitingAt_succ_of_added ha]
      exact ih.tail
    · rw [waitingAt_succ_of_other hr ha]
      exact ih

theorem lt_of_partner (h : partner changes j = some i) : i < j := by
  by_cases ha : addedAt changes j = true
  · rw [partner_of_added ha] at h
    exact lt_of_mem_waitingAt (List.mem_of_head? h)
  · rw [partner_of_not_added ha] at h
    cases h

/-- One position further on, a removal is untaken if it stands there or was untaken before, and is
not taken there. -/
theorem untaken_succ : Untaken changes (partner changes) (j + 1) i ↔
    (i = j ∧ removedAt changes j = true ∨ Untaken changes (partner changes) j i) ∧
      partner changes j ≠ some i := by
  constructor
  · rintro ⟨before, removed, free⟩
    refine ⟨?_, free j (Nat.lt_succ_self j)⟩
    obtain earlier | rfl := Nat.lt_succ_iff_lt_or_eq.mp before
    · exact .inr ⟨earlier, removed, fun k hk => free k (Nat.lt_succ_of_lt hk)⟩
    · exact .inl ⟨rfl, removed⟩
  · rintro ⟨⟨rfl, removed⟩ | ⟨before, removed, free⟩, here⟩
    · have free : ∀ k < i, partner changes k ≠ some i := by
        intro k hk taken
        exact Nat.lt_asymm hk (lt_of_partner taken)
      exact ⟨Nat.lt_succ_self i, removed, Nat.forall_lt_succ_right.mpr ⟨free, here⟩⟩
    · exact ⟨Nat.lt_succ_of_lt before, removed, Nat.forall_lt_succ_right.mpr ⟨free, here⟩⟩

/-- The stack holds what is untaken. -/
theorem mem_waitingAt : i ∈ waitingAt changes j ↔ Untaken changes (partner changes) j i := by
  induction j generalizing i with
  | zero => simp [waitingAt, Untaken]
  | succ j ih =>
    rw [untaken_succ, ← ih]
    by_cases hr : removedAt changes j = true
    · have idle : partner changes j = none :=
        partner_of_not_added (by simp [addedAt_eq_false hr])
      simp [waitingAt_succ_of_removed hr, hr, idle]
    by_cases ha : addedAt changes j = true
    · rw [waitingAt_succ_of_added ha, partner_of_added ha,
        mem_tail_of_pairwise (pairwise_waitingAt changes j)]
      simp [hr]
    · simp [waitingAt_succ_of_other hr ha, partner_of_not_added ha, hr]

/-- The pairs of the stack are a nearest matching. -/
theorem nearestMatching_partner (changes : List (Change α)) :
    NearestMatching changes (partner changes) where
  added := by
    intro j i h
    by_contra other
    rw [partner_of_not_added other] at h
    cases h
  nearest := by
    intro j ha i
    simp only [partner_of_added ha, ← mem_waitingAt]
    exact head?_eq_some_iff_of_pairwise (pairwise_waitingAt changes j)
  alone := by
    intro j ha
    simp only [partner_of_added ha, ← mem_waitingAt, List.head?_eq_none_iff,
      List.eq_nil_iff_forall_not_mem]

/-- Two pairs of a nearest matching do not cross. -/
theorem NearestMatching.nested_or_disjoint {partner : Nat → Option Nat} {j' i' : Nat}
    (h : NearestMatching changes partner) (hj : j < j') (inner : partner j = some i)
    (outer : partner j' = some i') : i' < i ∨ j < i' := by
  have ha := h.added inner
  obtain ⟨⟨_, removed, free⟩, _⟩ := (h.nearest (h.added outer)).mp outer
  obtain ⟨_, greatest⟩ := (h.nearest ha).mp inner
  obtain before | rfl | behind := Nat.lt_trichotomy i' j
  · -- `i'` was there for `j` too, so `j` took a nearer one.
    have le : i' ≤ i := greatest i' ⟨before, removed, fun k hk => free k (Nat.lt_trans hk hj)⟩
    have ne : i' ≠ i := by
      rintro rfl
      exact free j hj inner
    exact .inl (Nat.lt_of_le_of_ne le ne)
  · rw [addedAt_eq_false removed] at ha
    cases ha
  · exact .inr behind

end Positions

end Change

open Change

section Lines

variable {changes : List (Change Text)}

/-- The line at a position of a diff. -/
def lineAt (changes : List (Change Text)) (i : Nat) : Text :=
  (changes[i]?.map Change.item).getD []

/-- The pair of lines that stands for a position of a diff, if any. -/
def pairAt (changes : List (Change Text)) (j : Nat) : Option LinePair :=
  match changes[j]? with
  | some (.kept line) => some (.kept line)
  | some (.added line) =>
    match partner changes j with
    | some i => some (.modification (lineAt changes i) line)
    | none => some (.pureInsertion line)
  | some (.removed _) | none => none

/-- One turn: the stack changes as `waitingAt` does, and the pair of the position is put out. -/
theorem pairLinesWith_waitingAt {j : Nat} (hj : j < changes.length) :
    pairLinesWith .stack ((waitingAt changes j).map (lineAt changes)) (changes.drop j) =
      (pairAt changes j).toList ++
        pairLinesWith .stack ((waitingAt changes (j + 1)).map (lineAt changes))
          (changes.drop (j + 1)) := by
  have here : changes[j]? = some changes[j] := List.getElem?_eq_getElem hj
  rw [List.drop_eq_getElem_cons hj]
  cases hc : changes[j] with
  | kept line =>
    rw [hc] at here
    have removed : ¬removedAt changes j = true := by simp [removedAt, here]
    have added : ¬addedAt changes j = true := by simp [addedAt, here]
    rw [waitingAt_succ_of_other removed added, pairAt, here, pairLinesWith_kept]
    rfl
  | removed line =>
    rw [hc] at here
    have removed : removedAt changes j = true := by simp [removedAt, here]
    have text : lineAt changes j = line := by simp [lineAt, here]
    rw [waitingAt_succ_of_removed removed, pairAt, here, pairLinesWith_removed, List.map_cons, text]
    rfl
  | added line =>
    rw [hc] at here
    have added : addedAt changes j = true := by simp [addedAt, here]
    rw [waitingAt_succ_of_added added, pairAt, here, partner_of_added added]
    cases waitingAt changes j with
    | nil => rfl
    | cons i waiting => rfl

/-- After any number of turns, the pairs of the positions so far are put out, and the rest is paired
with the stack of this position. -/
theorem pairLines_stack_eq {j : Nat} (hj : j ≤ changes.length) :
    pairLines .stack changes = (List.range j).filterMap (pairAt changes) ++
      pairLinesWith .stack ((waitingAt changes j).map (lineAt changes)) (changes.drop j) := by
  induction j with
  | zero => rfl
  | succ j ih =>
    rw [ih (Nat.le_of_succ_le hj), pairLinesWith_waitingAt hj, List.range_succ,
      List.filterMap_append, List.append_assoc, List.filterMap_cons, List.filterMap_nil]
    cases pairAt changes j <;> rfl

/-- What waits at the end is what nobody takes, in the order of the diff from below. -/
theorem reverse_waitingAt_length (changes : List (Change Text)) :
    (waitingAt changes changes.length).reverse =
      (List.range changes.length).filter fun i =>
        Untaken changes (partner changes) changes.length i := by
  apply List.Pairwise.eq_of_mem_iff (r := (· < ·))
  · exact List.pairwise_reverse.mpr (pairwise_waitingAt changes _)
  · exact List.pairwise_lt_range.filter _
  · intro i
    rw [List.mem_reverse, mem_waitingAt, List.mem_filter, List.mem_range, decide_eq_true_iff]
    exact ⟨fun h => ⟨h.1, h⟩, fun h => h.2⟩

end Lines

/-- Apart from the removed lines that stay alone, the pairs of lines are the kept and the added lines
of a diff, in its order, and together they use each of its removed lines once. With stack pairing,
each added line is paired with the nearest removed one before it that no earlier added line is paired
with, and stays alone only if there is none. These pairs are nested or disjoint, and the removed
lines that stay alone come last, in the order of the diff. -/
theorem pairLines_matching (changes : List (Change Text)) :
    (∀ pairing,
      (pairLines pairing changes).filterMap LinePair.change? =
        changes.filter (fun c => !c.isRemoved) ∧
      ((pairLines pairing changes).filterMap LinePair.removed?).Perm
        (changes.filterMap Change.removed?)) ∧
    NearestMatching changes (partner changes) ∧
    (∀ {j j' i i'}, j < j' → partner changes j = some i → partner changes j' = some i' →
      i' < i ∨ j < i') ∧
    pairLines .stack changes =
      (List.range changes.length).filterMap (pairAt changes) ++
        ((List.range changes.length).filter fun i =>
          Untaken changes (partner changes) changes.length i).map fun i =>
            .unpairedRemoval (lineAt changes i) := by
  refine ⟨?_, nearestMatching_partner changes, ?_, ?_⟩
  · intro pairing
    exact ⟨filterMap_change?_pairLinesWith pairing [] changes,
      perm_filterMap_removed?_pairLinesWith pairing [] changes⟩
  · intro j j' i i' hj inner outer
    exact (nearestMatching_partner changes).nested_or_disjoint hj inner outer
  · rw [pairLines_stack_eq (Nat.le_refl _), List.drop_length, pairLinesWith_nil,
      ← List.map_reverse, reverse_waitingAt_length, List.map_map]
    rfl

/-- Of two removed lines, the last one goes to the first added line, and the first one, across a kept
line, to the second. The third added line stays alone. -/
theorem pairLines_matching_nested :
    let changes : List (Change Text) := [.removed ['a'], .removed ['b'], .added ['x'], .kept ['k'],
      .added ['y'], .added ['z']]
    partner changes 2 = some 1 ∧ partner changes 4 = some 0 ∧ (0 < 1 ∨ 2 < 0) ∧
      (∀ i, ¬Untaken changes (partner changes) 5 i) ∧
      pairLines .stack changes = [.modification ['b'] ['x'], .kept ['k'],
        .modification ['a'] ['y'], .pureInsertion ['z']] := by
  intro changes
  have inner : partner changes 2 = some 1 := by decide
  have outer : partner changes 4 = some 0 := by decide
  obtain ⟨_, nearest, nested, _⟩ := pairLines_matching changes
  exact ⟨inner, outer, nested (by decide) inner outer,
    (nearest.alone (by decide)).mp (by decide), by decide⟩

end Morphing
