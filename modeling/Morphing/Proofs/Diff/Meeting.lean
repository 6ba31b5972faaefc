import Morphing.Proofs.Diff.Path
import Morphing.Proofs.Diff.Reach

/-!
# Where two searches meet

One search comes from the beginning of a grid and one, in the flipped grid, from its end. Once they
overlap on a diagonal, the steps that both have taken make a way through the grid, and as soon as
they have taken as many as the distance, they overlap. So the first overlap tells the distance, and
either end of the snake that closed the gap lies on a shortest path.

Both searches may run past the edges. An overlap out there would need more steps than the grid has
tokens, hence it is never the first one, and `middleSnake?` always finds a point inside the grid.
-/

namespace Morphing.Diff

namespace Grid

variable {g : Grid} {d e : Nat} {k : Int} {X U : Nat}

/-- The diagonal on which a grid ends. -/
def lastDiagonal (g : Grid) : Int := (g.width : Int) - g.height

@[simp] theorem lastDiagonal_flip (g : Grid) : g.flip.lastDiagonal = g.lastDiagonal := rfl

theorem cost_flip_le_iff (h : Furthest g.flip e (g.lastDiagonal - k) U) {x y : Nat}
    (hx : x ≤ g.width) (hy : y ≤ g.height) (hk : (x : Int) - y = k) :
    g.flip.cost (g.width - x) (g.height - y) ≤ e ↔ g.width - x ≤ U := by
  apply h.cost_le_iff
  rw [lastDiagonal]
  omega

/-- Two searches that overlap have taken enough steps to get through the grid. -/
theorem distance_le_of_overlap (forward : Furthest g d k X)
    (backward : Furthest g.flip e (g.lastDiagonal - k) U) (overlap : g.width ≤ X + U)
    (few : d + e ≤ g.width + g.height + 1) : g.distance ≤ d + e := by
  have kf := forward.diagonal_bounds
  have kb := backward.diagonal_bounds
  have hX := forward.diagonal_le
  have hU := backward.diagonal_le
  rw [lastDiagonal] at kb hU
  -- The overlap has a point inside the grid, since the diagonal itself has one.
  obtain ⟨x, y, hk, hxX, hxU, hx, hy⟩ : ∃ x y : Nat, (x : Int) - y = k ∧ x ≤ X ∧
      g.width - x ≤ U ∧ x ≤ g.width ∧ y ≤ g.height := by
    refine ⟨max (g.width - U) (max 0 k).toNat, (max (g.width - U) (max 0 k).toNat - k).toNat, ?_⟩
    omega
  have there := (forward.cost_le_iff x y hk).mpr hxX
  have back := (cost_flip_le_iff backward hx hy hk).mpr hxU
  have := g.distance_le_cost_add hx hy
  omega

/-- Searches that have taken as many steps as the distance overlap. -/
theorem exists_overlap (h : g.distance = d + e) :
    ∃ k ∈ diagonals d, g.lastDiagonal - k ∈ diagonals e ∧ ∀ X U, Furthest g d k X →
      Furthest g.flip e (g.lastDiagonal - k) U → g.width ≤ X + U := by
  obtain ⟨x, y, hx, hy, there, back⟩ := g.exists_between (e := d) (by omega)
  have total := g.distance_le_cost_add hx hy
  have parity := g.cost_parity x y
  have parity' := g.flip.cost_parity (g.width - x) (g.height - y)
  have right := g.le_cost_add_right x y
  have left := g.le_cost_add_left x y
  have right' := g.flip.le_cost_add_right (g.width - x) (g.height - y)
  have left' := g.flip.le_cost_add_left (g.width - x) (g.height - y)
  refine ⟨(x : Int) - y, mem_diagonals.mpr (by omega), mem_diagonals.mpr ?_, ?_⟩
  · rw [lastDiagonal]
    omega
  · intro X U forward backward
    have hX := (forward.cost_le_iff x y rfl).mp (by omega)
    have hU := (cost_flip_le_iff backward hx hy rfl).mp (by omega)
    omega

/-- A point reached with `d` steps on a diagonal that `e` steps can leave lies inside the grid, if
`d + e` is the distance: on the way back from behind an edge steps would be wasted. -/
theorem inside_of_cost_le (h : g.distance = d + e) {x y : Nat} (hc : g.cost x y ≤ d)
    (lower : -(e : Int) ≤ g.lastDiagonal - (x - y)) (upper : g.lastDiagonal - (x - y) ≤ e) :
    x ≤ g.width ∧ y ≤ g.height := by
  rw [lastDiagonal] at lower upper
  -- The cost of a point in the plane, taken back to the nearest point of the grid.
  have project : g.cost (min x g.width) (min y g.height) + (x - g.width) + (y - g.height) ≤ d := by
    refine Nat.le_trans (Nat.le_of_eq ?_) hc
    obtain hx | hx := Nat.le_total x g.width
    · obtain hy | hy := Nat.le_total y g.height
      · simp [Nat.min_eq_left hx, Nat.min_eq_left hy, Nat.sub_eq_zero_of_le hx,
          Nat.sub_eq_zero_of_le hy]
      · obtain ⟨j, rfl⟩ := Nat.exists_eq_add_of_le hy
        simp [Nat.min_eq_left hx, Nat.sub_eq_zero_of_le hx, cost_height_add]
    · obtain ⟨i, rfl⟩ := Nat.exists_eq_add_of_le hx
      obtain hy | hy := Nat.le_total y g.height
      · simp [Nat.min_eq_left hy, Nat.sub_eq_zero_of_le hy, cost_width_add]
      · obtain ⟨j, rfl⟩ := Nat.exists_eq_add_of_le hy
        simp [cost_width_add, cost_height_add]
  have through := g.distance_le_cost_add (Nat.min_le_right x g.width) (Nat.min_le_right y g.height)
  have rest := g.flip.cost_le_sum (g.width - min x g.width) (g.height - min y g.height)
  omega

/-- A point of a grid on a shortest path, away from both corners. -/
structure Halves (g : Grid) (p : Point) : Prop where
  splits : g.Splits p
  cost_add : g.cost p.x p.y + g.flip.cost (g.width - p.x) (g.height - p.y) = g.distance

theorem Halves.of_cost_le (h : g.distance = d + e) (hd : 0 < d) (he : 0 < e) {p : Point}
    (hx : p.x ≤ g.width) (hy : p.y ≤ g.height) (there : g.cost p.x p.y ≤ d)
    (back : g.flip.cost (g.width - p.x) (g.height - p.y) ≤ e) : g.Halves p := by
  have through := g.distance_le_cost_add hx hy
  have sum := g.cost_le_sum p.x p.y
  have rest := g.flip.cost_le_sum (g.width - p.x) (g.height - p.y)
  exact ⟨⟨hx, hy, by omega, by omega⟩, by omega⟩

/-- The beginning of the snake that closes the gap in a forward sweep lies on a shortest path. -/
theorem Halves.of_forward (h : g.distance = d + e) (hd : 0 < d) (he : 0 < e) {s : Snake}
    (forward : s.Ends g d k) (backward : Furthest g.flip e (g.lastDiagonal - k) U)
    (overlap : g.width ≤ s.finish.x + U) : g.Halves s.start := by
  have kb := backward.diagonal_bounds
  have hdiag := forward.diagonal_start
  have hfinish : (s.finish.x : Int) - s.finish.y = k := by
    simp only [Snake.finish]
    omega
  have reached := (forward.furthest.cost_le_iff s.finish.x s.finish.y hfinish).mpr (Nat.le_refl _)
  obtain ⟨hx, hy⟩ := inside_of_cost_le h reached (by omega) (by omega)
  have back := (cost_flip_le_iff backward hx hy hfinish).mpr (by omega)
  -- Backwards the snake is a slide as well, so its beginning is as near to the end as its finish.
  simp only [Snake.finish] at hx hy back
  have slid := Grid.cost_flip_slide forward.run
  exact of_cost_le h hd he (by omega) (by omega) forward.cost_start (by omega)

/-- The finish of the snake that closes the gap in a backward sweep, seen from the beginning of the
grid, lies on a shortest path. -/
theorem Halves.of_backward (h : g.distance = d + e) {s : Snake} (backward : s.Ends g.flip e k)
    (forward : Furthest g d (g.lastDiagonal - k) X) (overlap : g.width ≤ s.finish.x + X) :
    ∃ p, s.finish.flip? g = some p ∧ (0 < d → 0 < e → g.Halves p) := by
  have kf := forward.diagonal_bounds
  have hdiag := backward.diagonal_start
  have hfinish : (s.finish.x : Int) - s.finish.y = k := by
    simp only [Snake.finish]
    omega
  have back := (backward.furthest.cost_le_iff s.finish.x s.finish.y hfinish).mpr (Nat.le_refl _)
  have flipped : g.flip.distance = e + d := by
    rw [distance_flip, h, Nat.add_comm]
  have diagonal : g.flip.lastDiagonal = g.lastDiagonal := rfl
  obtain ⟨hx, hy⟩ := inside_of_cost_le flipped back (by omega) (by omega)
  simp only [width_flip, height_flip] at hx hy
  refine ⟨_, if_pos ⟨hx, hy⟩, ?_⟩
  have there := (forward.cost_le_iff (g.width - s.finish.x) (g.height - s.finish.y)
    (by rw [lastDiagonal]; omega)).mpr (by omega)
  intro hd he
  refine of_cost_le h hd he (Nat.sub_le _ _) (Nat.sub_le _ _) there ?_
  simpa [Nat.sub_sub_self hx, Nat.sub_sub_self hy] using back

end Grid

end Morphing.Diff
