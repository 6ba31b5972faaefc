import Morphing.Diff.Grid

/-!
# The cost of a point of the edit grid

`Grid.cost x y` is the least number of right and down steps that lead from the beginning of a grid
to `(x, y)`. Such steps may leave the grid, diagonal ones may not: the cost is defined on the whole
quarter plane, so that a search that runs past the edges can be measured as well.

Costs change by one from a point to the next in its row or column, and never fall along a diagonal.
The second fact is what makes a furthest point per diagonal a faithful summary: whatever lies before
it on its diagonal costs no more.
-/

namespace Morphing.Diff.Grid

variable (g : Grid)

/-- The tokens that meet at `(x, y)` are the same, so that a diagonal step may be taken there. -/
def Matches (x y : Nat) : Prop := x < g.width ∧ y < g.height ∧ g.same x y = true

instance (x y : Nat) : Decidable (g.Matches x y) := by unfold Matches; infer_instance

/-- The least number of right and down steps on the way from the beginning to `(x, y)`. -/
def cost : Nat → Nat → Nat
  | 0, y => y
  | x + 1, 0 => x + 1
  | x + 1, y + 1 =>
    if g.Matches x y then cost x y else min (cost x (y + 1)) (cost (x + 1) y) + 1
termination_by x y => x + y

/-- The least number of tokens that have to be removed or added. -/
def distance : Nat := g.cost g.width g.height

variable {g}

theorem diagonalRun_same {same : Nat → Nat → Bool} {x y limit i : Nat}
    (h : i < diagonalRun same x y limit) : same (x + i) (y + i) = true := by
  induction limit generalizing x y i with
  | zero => exact absurd h (Nat.not_lt_zero i)
  | succ limit ih =>
    rw [diagonalRun] at h
    split at h
    next hs =>
      cases i with
      | zero => exact hs
      | succ i =>
        have := ih (Nat.lt_of_succ_lt_succ h)
        rwa [Nat.add_right_comm x 1 i, Nat.add_right_comm y 1 i] at this
    next => exact absurd h (Nat.not_lt_zero i)

theorem diagonalRun_stops {same : Nat → Nat → Bool} {x y limit : Nat}
    (h : diagonalRun same x y limit < limit) :
    same (x + diagonalRun same x y limit) (y + diagonalRun same x y limit) = false := by
  induction limit generalizing x y with
  | zero => exact absurd h (Nat.not_lt_zero _)
  | succ limit ih =>
    rw [diagonalRun] at h ⊢
    split
    next hs =>
      rw [if_pos hs] at h
      have := ih (Nat.lt_of_succ_lt_succ h)
      rwa [Nat.add_right_comm x 1, Nat.add_right_comm y 1] at this
    next hs => simpa using hs

/-- A run of diagonal steps goes along matches. -/
theorem matches_of_lt_runFrom {x y i : Nat} (h : i < g.runFrom x y) :
    g.Matches (x + i) (y + i) := by
  have hw := g.runFrom_le_width x y
  have hh := g.runFrom_le_height x y
  exact ⟨by omega, by omega, diagonalRun_same h⟩

/-- It ends where nothing matches any more. -/
theorem not_matches_runFrom (x y : Nat) :
    ¬g.Matches (x + g.runFrom x y) (y + g.runFrom x y) := by
  rintro ⟨hx, hy, hs⟩
  have stops : g.same (x + g.runFrom x y) (y + g.runFrom x y) = false := by
    apply diagonalRun_stops
    show g.runFrom x y < _
    omega
  rw [stops] at hs
  cases hs

@[simp] theorem cost_zero_left (y : Nat) : g.cost 0 y = y := by rw [cost]

@[simp] theorem cost_zero_right (x : Nat) : g.cost x 0 = x := by cases x <;> rw [cost]

theorem cost_of_matches {x y : Nat} (h : g.Matches x y) :
    g.cost (x + 1) (y + 1) = g.cost x y := by
  rw [cost, if_pos h]

theorem cost_of_not_matches {x y : Nat} (h : ¬g.Matches x y) :
    g.cost (x + 1) (y + 1) = min (g.cost x (y + 1)) (g.cost (x + 1) y) + 1 := by
  rw [cost, if_neg h]

/-- A point is reached on the diagonal or from one of its neighbours. -/
theorem cost_succ_succ (x y : Nat) :
    g.cost (x + 1) (y + 1) = g.cost x y ∨
      g.cost (x + 1) (y + 1) = min (g.cost x (y + 1)) (g.cost (x + 1) y) + 1 := by
  by_cases h : g.Matches x y
  · exact .inl (cost_of_matches h)
  · exact .inr (cost_of_not_matches h)

/-- Neighbours in a row and in a column differ by at most one. The four inequalities lean on each
other: where tokens match, a step along one side is measured by a step along the other. -/
private theorem cost_neighbours (x y : Nat) :
    (g.cost (x + 1) y ≤ g.cost x y + 1 ∧ g.cost x y ≤ g.cost (x + 1) y + 1) ∧
      g.cost x (y + 1) ≤ g.cost x y + 1 ∧ g.cost x y ≤ g.cost x (y + 1) + 1 := by
  induction x generalizing y with
  | zero =>
    refine ⟨?_, by simp; omega⟩
    induction y with
    | zero => simp
    | succ y ih =>
      have corner := g.cost_succ_succ 0 y
      simp only [cost_zero_left, Nat.zero_add] at *
      omega
  | succ x ihx =>
    induction y with
    | zero =>
      have left := (ihx 0).2
      have corner := g.cost_succ_succ x 0
      simp only [cost_zero_right, Nat.zero_add] at *
      omega
    | succ y ihy =>
      have left := ihx (y + 1)
      have corner := g.cost_succ_succ (x + 1) y
      have corner' := g.cost_succ_succ x (y + 1)
      omega

theorem cost_right_le (x y : Nat) : g.cost (x + 1) y ≤ g.cost x y + 1 := (cost_neighbours x y).1.1

theorem cost_le_right (x y : Nat) : g.cost x y ≤ g.cost (x + 1) y + 1 := (cost_neighbours x y).1.2

theorem cost_down_le (x y : Nat) : g.cost x (y + 1) ≤ g.cost x y + 1 := (cost_neighbours x y).2.1

theorem cost_le_down (x y : Nat) : g.cost x y ≤ g.cost x (y + 1) + 1 := (cost_neighbours x y).2.2

/-- Costs never fall along a diagonal. -/
theorem cost_le_diagonal (x y : Nat) : g.cost x y ≤ g.cost (x + 1) (y + 1) := by
  by_cases h : g.Matches x y
  · exact Nat.le_of_eq (cost_of_matches h).symm
  · have e := cost_of_not_matches h
    have right := g.cost_le_right x y
    have down := g.cost_le_down x y
    omega

theorem cost_le_add (x y k : Nat) : g.cost x y ≤ g.cost (x + k) (y + k) := by
  induction k with
  | zero => exact Nat.le_refl _
  | succ k ih => exact Nat.le_trans ih (g.cost_le_diagonal (x + k) (y + k))

/-- Diagonal steps cost nothing. -/
theorem cost_slide {x y k : Nat} (h : ∀ i, i < k → g.Matches (x + i) (y + i)) :
    g.cost (x + k) (y + k) = g.cost x y := by
  induction k with
  | zero => rfl
  | succ k ih =>
    have last := cost_of_matches (h k (Nat.lt_succ_self k))
    rw [← Nat.add_assoc, ← Nat.add_assoc, last]
    apply ih
    intro i hi
    exact h i (Nat.lt_succ_of_lt hi)

/-- Leaving a diagonal takes a step for each diagonal that is crossed. -/
theorem le_cost_add_right (x y : Nat) : x ≤ g.cost x y + y := by
  induction y with
  | zero => simp
  | succ y ih => have := g.cost_le_down x y; omega

theorem le_cost_add_left (x y : Nat) : y ≤ g.cost x y + x := by
  induction x with
  | zero => simp
  | succ x ih => have := g.cost_le_right x y; omega

theorem cost_le_sum (x y : Nat) : g.cost x y ≤ x + y := by
  induction x with
  | zero => simp
  | succ x ih => have := g.cost_right_le x y; omega

/-- Every right or down step changes the parity of the diagonal. -/
theorem cost_parity (x y : Nat) : g.cost x y % 2 = (x + y) % 2 := by
  fun_induction g.cost x y <;> omega

theorem distance_le_sum (g : Grid) : g.distance ≤ g.width + g.height :=
  g.cost_le_sum g.width g.height

theorem distance_parity (g : Grid) : g.distance % 2 = (g.width + g.height) % 2 :=
  g.cost_parity g.width g.height

/-- Behind the right edge there is nothing but right and down steps. -/
theorem cost_right_of_width_le {x : Nat} (y : Nat) (h : g.width ≤ x) :
    g.cost (x + 1) y = g.cost x y + 1 := by
  induction y with
  | zero => simp
  | succ y ih =>
    have outside : ¬g.Matches x y := by
      rintro ⟨inside, _⟩
      omega
    have e := cost_of_not_matches outside
    have down := g.cost_down_le x y
    omega

theorem cost_down_of_height_le (x : Nat) {y : Nat} (h : g.height ≤ y) :
    g.cost x (y + 1) = g.cost x y + 1 := by
  induction x with
  | zero => simp
  | succ x ih =>
    have outside : ¬g.Matches x y := by
      rintro ⟨_, inside, _⟩
      omega
    have e := cost_of_not_matches outside
    have right := g.cost_right_le x y
    omega

theorem cost_width_add (k y : Nat) : g.cost (g.width + k) y = g.cost g.width y + k := by
  induction k with
  | zero => rfl
  | succ k ih =>
    rw [← Nat.add_assoc, cost_right_of_width_le y (Nat.le_add_right _ _), ih]
    rfl

theorem cost_height_add (x k : Nat) : g.cost x (g.height + k) = g.cost x g.height + k := by
  induction k with
  | zero => rfl
  | succ k ih =>
    rw [← Nat.add_assoc, cost_down_of_height_le x (Nat.le_add_right _ _), ih]
    rfl

/-- The cost of a point depends only on what matches before it. -/
theorem cost_congr {g h : Grid} {x y : Nat}
    (same : ∀ i j, i < x → j < y → (g.Matches i j ↔ h.Matches i j)) :
    g.cost x y = h.cost x y := by
  fun_induction g.cost x y with
  | case1 y => simp
  | case2 x => simp
  | case3 x y hm ih =>
    have hm' := (same x y (Nat.lt_succ_self x) (Nat.lt_succ_self y)).mp hm
    rw [cost_of_matches hm']
    apply ih
    intro i j hi hj
    exact same i j (by omega) (by omega)
  | case4 x y hm ih₁ ih₂ =>
    have hm' := mt (same x y (Nat.lt_succ_self x) (Nat.lt_succ_self y)).mpr hm
    have left : g.cost x (y + 1) = h.cost x (y + 1) := by
      apply ih₁
      intro i j hi hj
      exact same i j (by omega) hj
    have right : g.cost (x + 1) y = h.cost (x + 1) y := by
      apply ih₂
      intro i j hi hj
      exact same i j hi (by omega)
    rw [cost_of_not_matches hm', left, right]

end Morphing.Diff.Grid
