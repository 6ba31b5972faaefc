import Mathlib.Algebra.Group.Int.Defs
import Mathlib.Algebra.Ring.Nat
import Morphing.Proofs.Diff.Search

/-!
# The course of a search

A search goes round by round and diagonal by diagonal. `Scratch.Reaches` says in which state it
comes to a round, and `Scratch.HasTurn` lists its turns, the visits to single diagonals, of both
directions. Every turn of a search that is bound to meet succeeds: it reads and writes inside the
frontiers, enters its diagonal at a point of the quarter plane, and when it meets the opposite
search, it does so inside the grid.

No number that a turn computes is far from the size of the grid.
-/

namespace Morphing.Diff

namespace Grid

variable {g : Grid}

/-- Every column behind the right edge costs a step. -/
theorem le_width_add_cost (g : Grid) (x y : Nat) : x ≤ g.width + g.cost x y := by
  obtain inside | outside := Nat.le_total x g.width
  · exact Nat.le_add_right_of_le inside
  · obtain ⟨k, rfl⟩ := Nat.exists_eq_add_of_le outside
    rw [cost_width_add]
    omega

/-- Every row below the lower edge costs a step. -/
theorem le_height_add_cost (g : Grid) (x y : Nat) : y ≤ g.height + g.cost x y := by
  obtain inside | outside := Nat.le_total y g.height
  · exact Nat.le_add_right_of_le inside
  · obtain ⟨k, rfl⟩ := Nat.exists_eq_add_of_le outside
    rw [cost_height_add]
    omega

end Grid

namespace Snake.Ends

variable {g : Grid} {d : Nat} {k : Int} {s : Snake}

theorem diagonal_finish (h : s.Ends g d k) : (s.finish.x : Int) - s.finish.y = k := by
  have start := h.diagonal_start
  simp only [Snake.finish]
  omega

theorem cost_finish (h : s.Ends g d k) : g.cost s.finish.x s.finish.y ≤ d :=
  (h.furthest.cost_le_iff _ _ h.diagonal_finish).mpr (Nat.le_refl _)

/-- A path runs past the edges of its grid by no more than its steps. -/
theorem finish_le (h : s.Ends g d k) : s.finish.x ≤ g.width + d ∧ s.finish.y ≤ g.height + d := by
  have cost := h.cost_finish
  have right := g.le_width_add_cost s.finish.x s.finish.y
  have down := g.le_height_add_cost s.finish.x s.finish.y
  omega

/-- On a diagonal that the opposite search can have reached with the steps that are left, a path
ends inside the grid. -/
theorem inside {e : Nat} (h : s.Ends g d k) (distance : g.distance = d + e)
    (lower : -(e : Int) ≤ g.lastDiagonal - k) (upper : g.lastDiagonal - k ≤ e) :
    s.finish.x ≤ g.width ∧ s.finish.y ≤ g.height := by
  have diagonal := h.diagonal_finish
  exact Grid.inside_of_cost_le distance h.cost_finish (by omega) (by omega)

end Snake.Ends

theorem Furthest.le_width_add {g : Grid} {d : Nat} {k : Int} {x : Nat} (h : Furthest g d k x) :
    x ≤ g.width + d := by
  obtain ⟨y, _, cost⟩ := h.exists_row
  have right := g.le_width_add_cost x y
  omega

namespace Frontier

variable {f f' : Frontier} {g : Grid} {d : Nat} {k : Int} {meets : Int → Snake → Option Bool}

/-- A snake begins where the search enters its diagonal, which is not above the grid. -/
theorem enter?_of_snake? {s : Snake} (h : f.snake? g d k = some s) :
    f.enter? d k = some s.start.x ∧ (s.start.x : Int) - k = s.start.y := by
  simp only [snake?, Option.bind_eq_bind, Option.bind_eq_some_iff] at h
  obtain ⟨x, henter, h⟩ := h
  split at h
  · cases h
  next below =>
    cases h
    exact ⟨henter, (Int.toNat_of_nonneg (Int.not_lt.mp below)).symm⟩

/-- Only the diagonals of a frontier can be read. -/
theorem range_of_get? {x : Nat} (h : f.get? k = some x) :
    0 ≤ k + f.radius ∧ k + f.radius < 2 * f.radius := by
  obtain ⟨i, hi, _⟩ := Option.bind_eq_some_iff.mp h
  rw [cell?] at hi
  split at hi
  next inside => exact inside
  next => cases hi

/-- Only the diagonals of a frontier can be written. -/
theorem range_of_set? {x : Nat} (h : f.set? k x = some f') :
    0 ≤ k + f.radius ∧ k + f.radius < 2 * f.radius := by
  simp only [set?] at h
  split at h
  next inside => exact inside
  next => cases h

/-- A sweep that goes on past its first diagonal has recorded it. -/
theorem sweep_cons_eq {ks : List Int} {r : Option Snake}
    (h : f.sweep g d meets (k :: ks) = some (f', r)) :
    ∃ (s : Snake) (f₁ : Frontier), f.set? k s.finish.x = some f₁ ∧
      (f' = f₁ ∨ f₁.sweep g d meets ks = some (f', r)) := by
  simp only [sweep, Option.bind_eq_bind, Option.bind_eq_some_iff] at h
  obtain ⟨s, _, f₁, hset, b, _, h⟩ := h
  refine ⟨s, f₁, hset, ?_⟩
  cases b with
  | true =>
    cases h
    exact .inl rfl
  | false => exact .inr h

/-- A sweep that gets through its round has room for it. -/
theorem room_of_sweep {r : Option Snake} (h : f.sweep g d meets (diagonals d) = some (f', r)) :
    d < f.radius := by
  have first : diagonals d = (d : Int) :: (diagonals d).tail := by
    simp [diagonals, List.range_succ_eq_map]
  rw [first] at h
  obtain ⟨s, f₁, hset, _⟩ := sweep_cons_eq h
  have inside := range_of_set? hset
  omega

/-- Wherever a sweep has got to, what its round reads is still there. -/
theorem ready_of_sweep {ks : List Int} {r : Option Snake} (ready : f.Ready g d)
    (hsub : ∀ k ∈ ks, k ∈ diagonals d) (h : f.sweep g d meets ks = some (f', r)) :
    f'.Ready g d ∧ f'.radius = f.radius := by
  induction ks generalizing f with
  | nil =>
    cases h
    exact ⟨ready, rfl⟩
  | cons k ks ih =>
    obtain ⟨hk, hks⟩ := List.forall_mem_cons.mp hsub
    obtain ⟨s, f₁, hset, rfl | h⟩ := sweep_cons_eq h
    · exact ⟨ready.of_set? hk hset, radius_of_set? hset⟩
    · obtain ⟨ready', hr⟩ := ih (ready.of_set? hk hset) hks h
      exact ⟨ready', hr.trans (radius_of_set? hset)⟩

end Frontier

/-! ### Rounds -/

/-- A search of `g` that begins on scratch space `s` comes to round `d` in the given state: no round
before it has found a meeting. -/
inductive Scratch.Reaches (g : Grid) (s : Scratch) : Nat → Scratch → Prop where
  | begin {s₀ : Scratch} : s.begin? = some s₀ → Reaches g s 0 s₀
  | next {d : Nat} {s₁ s₂ : Scratch} :
      Reaches g s d s₁ → s₁.round g d = some (s₂, none) → Reaches g s (d + 1) s₂

namespace Scratch

variable {g : Grid} {s s₁ : Scratch} {d : Nat}

/-- A round without a meeting consists of two complete sweeps. -/
theorem sweeps_of_round (h : s.round g d = some (s₁, none)) :
    ∃ forward backward,
      s.forward.sweep g d (s.meetsForward g d) (diagonals d) = some (forward, none) ∧
      s.backward.sweep g.flip d (meetsBackward forward g d) (diagonals d) =
        some (backward, none) := by
  obtain ⟨⟨forward, met⟩, forth, rest⟩ := Option.bind_eq_some_iff.mp
    (show (s.forward.sweep g d (s.meetsForward g d) (diagonals d)).bind _ = _ from h)
  cases met with
  | some snake =>
    rw [round_of_forward forth] at h
    cases h
  | none =>
    obtain ⟨⟨backward, met⟩, back, rest⟩ := Option.bind_eq_some_iff.mp
      (show (s.backward.sweep g.flip d (meetsBackward forward g d) (diagonals d)).bind _ = _
        from rest)
    cases met with
    | some snake =>
      rw [round_of_met forth back] at h
      obtain ⟨p, _, hp⟩ := Option.map_eq_some_iff.mp h
      cases hp
    | none => exact ⟨forward, backward, forth, back⟩

theorem fits_of_round (h : s.round g d = some (s₁, none)) : s.Fits (d + 1) := by
  obtain ⟨forward, backward, forth, back⟩ := sweeps_of_round h
  exact ⟨Frontier.room_of_sweep forth, Frontier.room_of_sweep back⟩

end Scratch

namespace Scratch.Reaches

variable {g : Grid} {s s₁ : Scratch} {d : Nat}

/-- A search comes to a round only while the distance leaves something to be covered, and then both
frontiers hold what the round reads. -/
theorem ready (h : s.Reaches g d s₁) :
    s₁.Ready g d ∧ s.SameRoom s₁ ∧ 2 * d ≤ g.distance + 1 := by
  induction h with
  | begin hbegin =>
    obtain ⟨same, ready⟩ := ready_of_begin g hbegin
    exact ⟨ready, same, by omega⟩
  | next _ hround ih =>
    obtain ⟨ready, hroom, hd⟩ := ih
    obtain ⟨s₂, r, hround', hroom', found | ⟨rfl, hlt, next⟩⟩ :=
      Scratch.outcome ready (fits_of_round hround) hd
    · obtain ⟨p, rfl, _⟩ := found
      cases hround.symm.trans hround'
    · cases hround.symm.trans hround'
      exact ⟨next, hroom.trans hroom', by omega⟩

end Scratch.Reaches

/-- With room for its rounds, a search completes all those that cannot cover the distance yet. -/
theorem Scratch.exists_reaches {g : Grid} {s : Scratch} {d : Nat} (two : s.Fits 2)
    (fits : s.Fits g.roundLimit) (hd : 2 * d ≤ g.distance + 1) : ∃ s₁, s.Reaches g d s₁ := by
  have most := g.distance_le_sum
  have hlimit : g.roundLimit = (g.width + g.height + 1) / 2 + 1 := rfl
  induction d with
  | zero =>
    obtain ⟨s₁, hbegin, _⟩ := exists_begin g two
    exact ⟨s₁, .begin hbegin⟩
  | succ d ih =>
    obtain ⟨s₁, reaches⟩ := ih (by omega)
    obtain ⟨ready, same, _⟩ := reaches.ready
    obtain ⟨s₂, r, hround, _, found | ⟨rfl, _⟩⟩ :=
      outcome ready ((fits.of_sameRoom same).mono (by omega)) (by omega)
    · obtain ⟨_, _, covered, _⟩ := found
      omega
    · exact ⟨s₂, .next reaches hround⟩

/-! ### Turns -/

/-- A search about to visit a diagonal: the grid as this search reads it, its own frontier, and the
opposite one with the reach of the question whether the two have met, if it is asked. -/
structure Turn where
  grid : Grid
  round : Nat
  diagonal : Int
  own : Frontier
  opposite : Frontier
  reach? : Option Int

namespace Turn

/-- Forward searches ask in grids whose sides differ by an odd number. -/
def forward (g : Grid) (d : Nat) (k : Int) (own backward : Frontier) : Turn :=
  ⟨g, d, k, own, backward, if g.isOdd then some ((d : Int) - 1) else none⟩

/-- Backward searches ask in the others. -/
def backward (g : Grid) (d : Nat) (k : Int) (own forward : Frontier) : Turn :=
  ⟨g.flip, d, k, own, forward, if g.isOdd then none else some (d : Int)⟩

/-- Whether a snake meets the opposite search. -/
def meets (t : Turn) (snake : Snake) : Option Bool :=
  match t.reach? with
  | some reach => t.opposite.covers? t.grid reach t.diagonal snake
  | none => some false

/-- The diagonal of the opposite search that the question is about. -/
def across (t : Turn) : Int := t.grid.lastDiagonal - t.diagonal

section

variable (g : Grid) (d : Nat) (k : Int) (own opposite : Frontier)

@[simp] theorem grid_forward : (forward g d k own opposite).grid = g := rfl

@[simp] theorem grid_backward : (backward g d k own opposite).grid = g.flip := rfl

@[simp] theorem across_forward : (forward g d k own opposite).across = g.lastDiagonal - k := rfl

@[simp] theorem across_backward : (backward g d k own opposite).across = g.lastDiagonal - k := rfl

end

/-- The question is asked on this diagonal. -/
def Asks (t : Turn) : Prop := ∃ reach, t.reach? = some reach ∧ -reach ≤ t.across ∧ t.across ≤ reach

/-- The neighbouring diagonals that a turn reads: on the two outer ones of its round just one. -/
def reads (t : Turn) : List Int :=
  if t.diagonal = -(t.round : Int) then [t.diagonal + 1]
  else if t.diagonal = t.round then [t.diagonal - 1]
  else [t.diagonal - 1, t.diagonal + 1]

/-- A turn that succeeds: it follows a snake from the point where it enters its diagonal, records
it, and learns whether the two searches have met. -/
structure Succeeds (t : Turn) (snake : Snake) (met : Bool) : Prop where
  cells : ∀ j ∈ t.diagonal :: t.reads, 0 ≤ j + t.own.radius ∧ j + t.own.radius < 2 * t.own.radius
  follow : t.own.snake? t.grid t.round t.diagonal = some snake
  enter : t.own.enter? t.round t.diagonal = some snake.start.x
  row : (snake.start.x : Int) - t.diagonal = snake.start.y
  record : (t.own.set? t.diagonal snake.finish.x).isSome
  answer : t.meets snake = some met
  inside : met = true → snake.finish.x ≤ t.grid.width ∧ snake.finish.y ≤ t.grid.height

/-- The numbers of a turn exceed the size of its grid by its round at most. Both frontiers have at
most the given radius. -/
structure Near (t : Turn) (snake : Snake) (radius : Nat) : Prop where
  round : 2 * t.round ≤ t.grid.width + t.grid.height + 1
  radius : t.own.radius ≤ radius ∧ t.opposite.radius ≤ radius
  diagonal : -(t.round : Int) ≤ t.diagonal ∧ t.diagonal ≤ t.round
  finish : snake.finish.x ≤ t.grid.width + t.round ∧ snake.finish.y ≤ t.grid.height + t.round
  covered : t.Asks → ∃ x, t.opposite.get? t.across = some x ∧ x ≤ t.grid.width + t.round

/-- The signed numbers of a turn: the diagonals and cells that it reads, the points of its snake and
the diagonal across. -/
def numbers (t : Turn) (snake : Snake) : List Int :=
  [t.diagonal - 1, t.diagonal + 1, t.diagonal - 1 + t.own.radius, t.diagonal + 1 + t.own.radius,
    snake.start.x, snake.start.y, snake.finish.x, snake.finish.y, t.across]

/-- All numbers of a turn fit into machine words of 64 bits. -/
structure FitsWords (t : Turn) (snake : Snake) : Prop where
  signed : ∀ z ∈ t.numbers snake, -2 ^ 63 < z ∧ z < 2 ^ 63
  covered : t.Asks → ∀ x, t.opposite.get? t.across = some x →
    0 ≤ t.across + t.opposite.radius ∧ t.across + t.opposite.radius < 2 ^ 63 ∧
      snake.finish.x + x < 2 ^ 64

/-- What a turn learns from the opposite search. -/
structure Answers (t : Turn) (snake : Snake) (met : Bool) : Prop where
  answer : t.meets snake = some met
  inside : met = true → snake.finish.x ≤ t.grid.width ∧ snake.finish.y ≤ t.grid.height
  covered : t.Asks → ∃ x, t.opposite.get? t.across = some x ∧ x ≤ t.grid.width + t.round

variable {t : Turn} {snake : Snake}

theorem meets_of_not_asks (h : ¬t.Asks) : t.meets snake = some false := by
  rw [meets]
  cases hreach : t.reach? with
  | none => rfl
  | some reach =>
    apply if_neg
    intro within
    exact h ⟨reach, hreach, within⟩

theorem answers_of_not_asks (h : ¬t.Asks) : t.Answers snake false where
  answer := meets_of_not_asks h
  inside := Bool.noConfusion
  covered asks := absurd asks h

theorem Near.fitsWords {radius : Nat} (near : t.Near snake radius)
    (size : t.grid.width + t.grid.height < 2 ^ 62) (room : radius ≤ 2 ^ 61 + 1) :
    t.FitsWords snake := by
  obtain ⟨hd, ⟨hown, hopposite⟩, ⟨lower, upper⟩, ⟨hx, hy⟩, covered⟩ := near
  have hstart : snake.start.x ≤ snake.finish.x ∧ snake.start.y ≤ snake.finish.y :=
    ⟨Nat.le_add_right _ _, Nat.le_add_right _ _⟩
  constructor
  · simp only [numbers, List.forall_mem_cons, across, Grid.lastDiagonal]
    refine ⟨?_, ?_, ?_, ?_, ?_, ?_, ?_, ?_, ?_, by simp⟩
    all_goals omega
  · intro asks x hget
    obtain ⟨x', hget', hx'⟩ := covered asks
    cases hget.symm.trans hget'
    have inside := Frontier.range_of_get? hget
    omega

/-- A turn that asks gets its answer from the layer that the opposite search has completed. -/
theorem exists_answer {h : Grid} {e : Nat} (reach : t.reach? = some (e : Int)) (he : e ≤ t.round)
    (layer : t.opposite.Layer h e) (width : h.width = t.grid.width)
    (parity : (e - t.across) % 2 = 0)
    (closes : ∀ U, Furthest h e t.across U → t.grid.width ≤ snake.finish.x + U →
      snake.finish.x ≤ t.grid.width ∧ snake.finish.y ≤ t.grid.height) :
    ∃ met, t.Answers snake met := by
  obtain ⟨met, hmet, hiff⟩ := Frontier.covers?_spec layer snake parity
  refine ⟨met, by rw [meets, reach]; exact hmet, ?_, ?_⟩
  · intro yes
    obtain ⟨_, U, far, beyond⟩ := hiff.mp yes
    exact closes U far beyond
  · rintro ⟨reach', hreach, within⟩
    cases reach.symm.trans hreach
    obtain ⟨x, hget, far⟩ := layer _ (mem_diagonals.mpr ⟨within.1, within.2, parity⟩)
    have most := far.le_width_add
    exact ⟨x, hget, by omega⟩

/-- A turn succeeds if its frontier is ready and it gets an answer. -/
theorem exists_succeeds {radius : Nat} (ready : t.own.Ready t.grid t.round)
    (room : t.round < t.own.radius) (two : 2 ≤ t.own.radius)
    (hr : t.own.radius ≤ radius ∧ t.opposite.radius ≤ radius)
    (hd : 2 * t.round ≤ t.grid.width + t.grid.height + 1) (hk : t.diagonal ∈ diagonals t.round)
    (answers : ∀ snake : Snake, snake.Ends t.grid t.round t.diagonal → ∃ met, t.Answers snake met) :
    ∃ snake met, t.Succeeds snake met ∧ t.Near snake radius := by
  obtain ⟨snake, follow, ends⟩ := Frontier.exists_snake ready hk
  obtain ⟨met, answer, inside, covered⟩ := answers snake ends
  obtain ⟨enter, row⟩ := Frontier.enter?_of_snake? follow
  have hk := mem_diagonals.mp hk
  have record := Frontier.set?_isSome (f := t.own) (k := t.diagonal) snake.finish.x (by omega)
    (by omega)
  have cells : ∀ j ∈ t.diagonal :: t.reads,
      0 ≤ j + t.own.radius ∧ j + t.own.radius < 2 * t.own.radius := by
    intro j hj
    obtain rfl | hj := List.mem_cons.mp hj
    · omega
    · rw [reads] at hj
      split at hj
      · rw [List.mem_singleton] at hj
        omega
      · split at hj
        · rw [List.mem_singleton] at hj
          omega
        · simp only [List.mem_cons, List.not_mem_nil, or_false] at hj
          omega
  exact ⟨snake, met, ⟨cells, follow, enter, row, record, answer, inside⟩,
    ⟨hd, hr, ⟨hk.1, hk.2.1⟩, ends.finish_le, covered⟩⟩

end Turn

namespace Scratch

/-- The turns of a search of `g` that begins on scratch space `s`: in each round the diagonals in
their order, first those of the forward sweep, then, if that finds no meeting, those of the backward
sweep. -/
inductive HasTurn (g : Grid) (s : Scratch) : Turn → Prop where
  | forward {d : Nat} {s₁ : Scratch} {k : Int} {done todo : List Int} {own : Frontier} :
      s.Reaches g d s₁ → diagonals d = done ++ k :: todo →
      s₁.forward.sweep g d (s₁.meetsForward g d) done = some (own, none) →
      HasTurn g s (.forward g d k own s₁.backward)
  | backward {d : Nat} {s₁ : Scratch} {k : Int} {done todo : List Int} {own forward : Frontier} :
      s.Reaches g d s₁ →
      s₁.forward.sweep g d (s₁.meetsForward g d) (diagonals d) = some (forward, none) →
      diagonals d = done ++ k :: todo →
      s₁.backward.sweep g.flip d (meetsBackward forward g d) done = some (own, none) →
      HasTurn g s (.backward g d k own forward)

section Turns

variable {g : Grid} {s : Scratch} {d : Nat} {k : Int} {snake : Snake} {own : Frontier}

/-- Both searches of a grid read one of its size. -/
theorem HasTurn.size {t : Turn} (h : s.HasTurn g t) :
    t.grid.width + t.grid.height = g.width + g.height := by
  cases h <;> rfl

/-- What a forward turn learns, if the backward search is ready for the same round. -/
theorem exists_answer_forward {backward : Frontier} (ready : backward.Ready g.flip d)
    (hk : k ∈ diagonals d) (hd : 2 * d ≤ g.distance + 1) (ends : snake.Ends g d k) :
    ∃ met, (Turn.forward g d k own backward).Answers snake met := by
  have parity := g.distance_parity
  have most := g.distance_le_sum
  have hk := mem_diagonals.mp hk
  cases hodd : g.isOdd with
  | false =>
    refine ⟨false, Turn.answers_of_not_asks ?_⟩
    rintro ⟨reach, hreach, _⟩
    simp [Turn.forward, hodd] at hreach
  | true =>
    have odd : (g.width + g.height) % 2 = 1 := by simpa [Grid.isOdd] using hodd
    cases d with
    | zero =>
      refine ⟨false, Turn.answers_of_not_asks ?_⟩
      rintro ⟨reach, hreach, lower, upper⟩
      simp only [Turn.forward, hodd, if_true, Option.some.injEq] at hreach
      omega
    | succ e =>
      have hreach : (Turn.forward g (e + 1) k own backward).reach? = some (e : Int) := by
        simp [Turn.forward, hodd]
      refine Turn.exists_answer (h := g.flip) hreach (Nat.le_succ e) ready rfl ?_ ?_
      · rw [Turn.across_forward, Grid.lastDiagonal]
        omega
      · intro U far beyond
        simp only [Turn.across_forward, Turn.grid_forward] at far beyond ⊢
        have enough := Grid.distance_le_of_overlap ends.furthest far beyond (by omega)
        have bounds := far.diagonal_bounds
        exact ends.inside (e := e) (by omega) bounds.1 bounds.2

/-- What a backward turn learns, if the forward search has completed the same round. -/
theorem exists_answer_backward {forward : Frontier}
    (layer : g.isOdd = false → forward.Layer g d) (hk : k ∈ diagonals d)
    (hd : 2 * d ≤ g.distance + 1) (ends : snake.Ends g.flip d k) :
    ∃ met, (Turn.backward g d k own forward).Answers snake met := by
  have parity := g.distance_parity
  have most := g.distance_le_sum
  have hk := mem_diagonals.mp hk
  cases hodd : g.isOdd with
  | true =>
    refine ⟨false, Turn.answers_of_not_asks ?_⟩
    rintro ⟨reach, hreach, _⟩
    simp [Turn.backward, hodd] at hreach
  | false =>
    have even : (g.width + g.height) % 2 = 0 := by simpa [Grid.isOdd] using hodd
    have hreach : (Turn.backward g d k own forward).reach? = some (d : Int) := by
      simp [Turn.backward, hodd]
    refine Turn.exists_answer (h := g) hreach (Nat.le_refl d) (layer hodd) rfl ?_ ?_
    · rw [Turn.across_backward, Grid.lastDiagonal]
      omega
    · intro X far beyond
      rw [Turn.across_backward] at far
      rw [Turn.grid_backward, Grid.width_flip] at beyond
      have furthest : Furthest g.flip d (g.lastDiagonal - (g.lastDiagonal - k)) snake.finish.x := by
        rw [Int.sub_sub_self]
        exact ends.furthest
      have enough := Grid.distance_le_of_overlap far furthest (by omega) (by omega)
      have bounds := far.diagonal_bounds
      have half : g.flip.distance = d + d := by
        rw [Grid.distance_flip]
        omega
      exact ends.inside half bounds.1 bounds.2

/-- Every turn of a search through a grid of distance at least two succeeds, on any scratch space
with room for the rounds. -/
theorem HasTurn.exists_succeeds {t : Turn} {radius : Nat} (h : s.HasTurn g t)
    (htwo : 2 ≤ g.distance) (fits : s.Fits g.roundLimit)
    (hr : s.forward.radius ≤ radius ∧ s.backward.radius ≤ radius) :
    ∃ snake met, t.Succeeds snake met ∧ t.Near snake radius := by
  have most := g.distance_le_sum
  have hlimit : g.roundLimit = (g.width + g.height + 1) / 2 + 1 := rfl
  cases h with
  | @forward d s₁ k done todo own reaches split before =>
    obtain ⟨ready, same, hd⟩ := reaches.ready
    have room := (fits.of_sameRoom same).forward
    have hall : ∀ j ∈ done ++ k :: todo, j ∈ diagonals d := split ▸ fun _ hj => hj
    obtain ⟨own_ready, hown⟩ := Frontier.ready_of_sweep ready.forward
      (fun j hj => hall j (List.mem_append_left _ hj)) before
    have hk := hall k (by simp)
    apply Turn.exists_succeeds own_ready
    · show d < own.radius
      omega
    · show 2 ≤ own.radius
      omega
    · exact ⟨(hown.trans same.forward) ▸ hr.1, same.backward ▸ hr.2⟩
    · show 2 * d ≤ g.width + g.height + 1
      omega
    · exact hk
    · intro snake ends
      exact exists_answer_forward ready.backward hk hd ends
  | @backward d s₁ k done todo own forward reaches passed split before =>
    obtain ⟨ready, same, hd⟩ := reaches.ready
    have room := fits.of_sameRoom same
    have roomf := room.forward
    have roomb := room.backward
    have hall : ∀ j ∈ done ++ k :: todo, j ∈ diagonals d := split ▸ fun _ hj => hj
    obtain ⟨own_ready, hown⟩ := Frontier.ready_of_sweep ready.backward
      (fun j hj => hall j (List.mem_append_left _ hj)) before
    obtain ⟨_, hforward⟩ := Frontier.ready_of_sweep ready.forward (fun _ hj => hj) passed
    have hk := hall k (by simp)
    have layer : g.isOdd = false → forward.Layer g d := by
      intro heven
      obtain ⟨f, hsweep, _, hlayer⟩ :=
        Frontier.sweep_blind ready.forward (show d < s₁.forward.radius by omega)
      rw [s₁.meetsForward_of_even heven, hsweep] at passed
      cases passed
      exact hlayer
    apply Turn.exists_succeeds own_ready
    · show d < own.radius
      omega
    · show 2 ≤ own.radius
      omega
    · exact ⟨(hown.trans same.backward) ▸ hr.2, (hforward.trans same.forward) ▸ hr.1⟩
    · show 2 * d ≤ g.width + g.height + 1
      omega
    · exact hk
    · intro snake ends
      exact exists_answer_backward layer hk hd ends

end Turns

end Scratch

end Morphing.Diff
