import Morphing.Diff.Script
import Morphing.Proofs.Diff.Cost

/-!
# Paths through the edit grid

`Path g steps x y u v` says that an edit script leads from `(x, y)` to `(u, v)`. Paths compose and
can be cut anywhere; read backwards, a path inside a grid is a path of the flipped grid.

The cost of a point is the least number of edits of a path to it. So no path from beginning to end
has fewer edits than the distance of its grid, and a shortest path passes, for each number of edits,
through a point that splits the distance accordingly.
-/

namespace Morphing.Diff

/-- The number of steps of a script that remove or add. -/
def edits (steps : List Step) : Nat := steps.countP (· != .keep)

@[simp] theorem edits_nil : edits [] = 0 := rfl

@[simp] theorem edits_keep (steps : List Step) : edits (.keep :: steps) = edits steps := rfl

@[simp] theorem edits_remove (steps : List Step) : edits (.remove :: steps) = edits steps + 1 := by
  simp [edits]

@[simp] theorem edits_add (steps : List Step) : edits (.add :: steps) = edits steps + 1 := by
  simp [edits]

@[simp] theorem edits_append (a b : List Step) : edits (a ++ b) = edits a + edits b := by
  simp [edits]

@[simp] theorem edits_replicate (k : Nat) (step : Step) :
    edits (List.replicate k step) = if step = .keep then 0 else k := by
  cases step <;> simp [edits, List.countP_replicate]

@[simp] theorem edits_reverse (steps : List Step) : edits steps.reverse = edits steps := by
  simp [edits]

/-- A script can be cut where a given number of its edits have been made. -/
theorem exists_append_of_le_edits {steps : List Step} {e : Nat} (h : e ≤ edits steps) :
    ∃ a b, steps = a ++ b ∧ edits a = e := by
  induction steps generalizing e with
  | nil => exact ⟨[], [], rfl, (Nat.le_zero.mp h).symm⟩
  | cons step steps ih =>
    cases step with
    | keep =>
      obtain ⟨a, b, hab, ha⟩ := ih h
      exact ⟨.keep :: a, b, by rw [hab, List.cons_append], ha⟩
    | remove | add =>
      cases e with
      | zero => exact ⟨[], _, rfl, rfl⟩
      | succ e =>
        obtain ⟨a, b, hab, ha⟩ := ih (e := e) (by simpa using h)
        exact ⟨_ :: a, b, by rw [hab, List.cons_append], by simp [ha]⟩

/-- A script that leads from `(x, y)` to `(u, v)`. It keeps only what matches. -/
inductive Path (g : Grid) : List Step → Nat → Nat → Nat → Nat → Prop where
  | nil (x y : Nat) : Path g [] x y x y
  | keep {steps : List Step} {x y u v : Nat} :
      g.Matches x y → Path g steps (x + 1) (y + 1) u v → Path g (.keep :: steps) x y u v
  | remove {steps : List Step} {x y u v : Nat} :
      Path g steps (x + 1) y u v → Path g (.remove :: steps) x y u v
  | add {steps : List Step} {x y u v : Nat} :
      Path g steps x (y + 1) u v → Path g (.add :: steps) x y u v

namespace Path

variable {g : Grid} {a b steps : List Step} {x y u v : Nat}

theorem trans {p q : Nat} (first : Path g a x y p q) (second : Path g b p q u v) :
    Path g (a ++ b) x y u v := by
  induction first with
  | nil => exact second
  | keep hm _ ih => exact .keep hm (ih second)
  | remove _ ih => exact .remove (ih second)
  | add _ ih => exact .add (ih second)

/-- Every cut of a script yields two paths. -/
theorem split (h : Path g (a ++ b) x y u v) : ∃ p q, Path g a x y p q ∧ Path g b p q u v := by
  induction a generalizing x y with
  | nil => exact ⟨x, y, .nil x y, h⟩
  | cons step a ih =>
    cases h with
    | keep hm rest =>
      obtain ⟨p, q, first, second⟩ := ih rest
      exact ⟨p, q, .keep hm first, second⟩
    | remove rest =>
      obtain ⟨p, q, first, second⟩ := ih rest
      exact ⟨p, q, .remove first, second⟩
    | add rest =>
      obtain ⟨p, q, first, second⟩ := ih rest
      exact ⟨p, q, .add first, second⟩

theorem le (h : Path g steps x y u v) : x ≤ u ∧ y ≤ v := by
  induction h with
  | nil => exact ⟨Nat.le_refl _, Nat.le_refl _⟩
  | keep _ _ ih | remove _ ih | add _ ih => omega

/-- A run of matches is a path of keeps. -/
theorem slide {k : Nat} (h : ∀ i, i < k → g.Matches (x + i) (y + i)) :
    Path g (List.replicate k .keep) x y (x + k) (y + k) := by
  induction k generalizing x y with
  | zero => exact .nil x y
  | succ k ih =>
    refine .keep (h 0 (Nat.succ_pos k)) ?_
    have rest : ∀ i, i < k → g.Matches (x + 1 + i) (y + 1 + i) := by
      intro i hi
      have := h (i + 1) (Nat.succ_lt_succ hi)
      rwa [Nat.add_right_comm x 1 i, Nat.add_right_comm y 1 i]
    have path := ih rest
    rwa [Nat.add_right_comm x 1 k, Nat.add_right_comm y 1 k] at path

theorem removals (x y k : Nat) : Path g (List.replicate k .remove) x y (x + k) y := by
  induction k generalizing x with
  | zero => exact .nil x y
  | succ k ih =>
    have path := ih (x + 1)
    rw [Nat.add_right_comm x 1 k] at path
    exact .remove path

theorem additions (x y k : Nat) : Path g (List.replicate k .add) x y x (y + k) := by
  induction k generalizing y with
  | zero => exact .nil x y
  | succ k ih =>
    have path := ih (y + 1)
    rw [Nat.add_right_comm y 1 k] at path
    exact .add path

/-- Along a path costs rise by no more than its edits. -/
theorem cost_le (h : Path g steps x y u v) : g.cost u v ≤ g.cost x y + edits steps := by
  induction h with
  | nil => simp
  | keep hm _ ih =>
    rw [Grid.cost_of_matches hm] at ih
    exact ih
  | @remove _ x y _ _ _ ih =>
    have := g.cost_right_le x y
    rw [edits_remove]
    omega
  | @add _ x y _ _ _ ih =>
    have := g.cost_down_le x y
    rw [edits_add]
    omega

end Path

namespace Grid

variable {g : Grid}

/-- The cost of a point is attained by a path. -/
theorem exists_path (g : Grid) (x y : Nat) :
    ∃ steps, Path g steps 0 0 x y ∧ edits steps = g.cost x y := by
  fun_induction g.cost x y with
  | case1 y => exact ⟨_, by simpa using Path.additions 0 0 y, by simp⟩
  | case2 x => exact ⟨_, by simpa using Path.removals 0 0 (x + 1), by simp⟩
  | case3 x y hm ih =>
    obtain ⟨steps, path, he⟩ := ih
    exact ⟨_, path.trans (.keep hm (.nil _ _)), by simp [he]⟩
  | case4 x y hm ih₁ ih₂ =>
    obtain ⟨steps₁, path₁, he₁⟩ := ih₁
    obtain ⟨steps₂, path₂, he₂⟩ := ih₂
    obtain hle | hle := Nat.le_total (g.cost x (y + 1)) (g.cost (x + 1) y)
    · refine ⟨_, path₁.trans (.remove (.nil _ _)), ?_⟩
      simp [he₁, Nat.min_eq_left hle]
    · refine ⟨_, path₂.trans (.add (.nil _ _)), ?_⟩
      simp [he₂, Nat.min_eq_right hle]

theorem matches_flip {x y : Nat} (hx : x < g.width) (hy : y < g.height) :
    g.flip.Matches (g.width - 1 - x) (g.height - 1 - y) ↔ g.Matches x y := by
  have ex : g.width - 1 - (g.width - 1 - x) = x := by omega
  have ey : g.height - 1 - (g.height - 1 - y) = y := by omega
  simp only [Matches, width_flip, height_flip, same_flip, ex, ey]
  constructor
  · rintro ⟨_, _, h⟩
    exact ⟨hx, hy, h⟩
  · rintro ⟨_, _, h⟩
    exact ⟨by omega, by omega, h⟩

theorem matches_flip_flip {x y : Nat} : g.flip.flip.Matches x y ↔ g.Matches x y := by
  by_cases hx : x < g.width
  · by_cases hy : y < g.height
    · have ex : g.width - 1 - (g.width - 1 - x) = x := by omega
      have ey : g.height - 1 - (g.height - 1 - y) = y := by omega
      simp only [Matches, width_flip, height_flip, same_flip, ex, ey]
    · simp [Matches, hy]
  · simp [Matches, hx]

theorem cost_flip_flip (x y : Nat) : g.flip.flip.cost x y = g.cost x y := by
  apply cost_congr
  intro i j _ _
  exact matches_flip_flip

theorem matches_of_flip {x y : Nat} (h : g.flip.Matches x y) :
    g.Matches (g.width - 1 - x) (g.height - 1 - y) := by
  obtain ⟨hx, hy, hs⟩ := h
  simp only [width_flip, height_flip] at hx hy
  exact ⟨by omega, by omega, hs⟩

/-- Backwards a run of matches is a run of matches as well, and costs nothing. -/
theorem cost_flip_slide {x y k : Nat} (h : ∀ i, i < k → g.Matches (x + i) (y + i)) :
    g.flip.cost (g.width - x) (g.height - y) =
      g.flip.cost (g.width - (x + k)) (g.height - (y + k)) := by
  cases k with
  | zero => rfl
  | succ k =>
    have last := h k (Nat.lt_succ_self k)
    have inside := last.1
    have inside' := last.2.1
    have backwards : ∀ i, i < k + 1 →
        g.flip.Matches (g.width - (x + (k + 1)) + i) (g.height - (y + (k + 1)) + i) := by
      intro i hi
      have hm := h (k - i) (by omega)
      have := (matches_flip hm.1 hm.2.1).mpr hm
      have ex : g.width - 1 - (x + (k - i)) = g.width - (x + (k + 1)) + i := by omega
      have ey : g.height - 1 - (y + (k - i)) = g.height - (y + (k + 1)) + i := by omega
      rwa [ex, ey] at this
    have slid := cost_slide backwards
    have ex : g.width - (x + (k + 1)) + (k + 1) = g.width - x := by omega
    have ey : g.height - (y + (k + 1)) + (k + 1) = g.height - y := by omega
    rwa [ex, ey] at slid

end Grid

/-- A path inside a grid, read backwards, is a path of the flipped grid. -/
theorem Path.reverse {g : Grid} {steps : List Step} {x y u v : Nat} (h : Path g steps x y u v)
    (hu : u ≤ g.width) (hv : v ≤ g.height) :
    Path g.flip steps.reverse (g.width - u) (g.height - v) (g.width - x) (g.height - y) := by
  induction h with
  | nil => exact .nil _ _
  | @keep steps x y u v hm rest ih =>
    have bound := rest.le
    have ex : g.width - x = g.width - (x + 1) + 1 := by omega
    have ey : g.height - y = g.height - (y + 1) + 1 := by omega
    have last : g.flip.Matches (g.width - (x + 1)) (g.height - (y + 1)) := by
      have := (Grid.matches_flip hm.1 hm.2.1).mpr hm
      rwa [Nat.sub_sub, Nat.sub_sub, Nat.add_comm 1 x, Nat.add_comm 1 y] at this
    rw [List.reverse_cons, ex, ey]
    exact (ih hu hv).trans (.keep last (.nil _ _))
  | @remove steps x y u v rest ih =>
    have bound := rest.le
    have ex : g.width - x = g.width - (x + 1) + 1 := by omega
    rw [List.reverse_cons, ex]
    exact (ih hu hv).trans (.remove (.nil _ _))
  | @add steps x y u v rest ih =>
    have bound := rest.le
    have ey : g.height - y = g.height - (y + 1) + 1 := by omega
    rw [List.reverse_cons, ey]
    exact (ih hu hv).trans (.add (.nil _ _))

/-- Costs from the end rise by no more than the edits of a path that is taken backwards. -/
theorem Path.cost_flip_le {g : Grid} {steps : List Step} {x y u v : Nat}
    (h : Path g steps x y u v) (hu : u ≤ g.width) (hv : v ≤ g.height) :
    g.flip.cost (g.width - x) (g.height - y) ≤
      g.flip.cost (g.width - u) (g.height - v) + edits steps := by
  have back := (h.reverse hu hv).cost_le
  rwa [edits_reverse] at back

/-- A path between two points of a window is a path of the whole grid. -/
theorem Path.of_window {g : Grid} {steps : List Step} {a b w h x y u v : Nat}
    (path : Path (g.window a b w h) steps x y u v) (hw : a + w ≤ g.width)
    (hh : b + h ≤ g.height) : Path g steps (a + x) (b + y) (a + u) (b + v) := by
  induction path with
  | nil => exact .nil _ _
  | keep hm _ ih =>
    obtain ⟨hx, hy, hs⟩ := hm
    simp only [Grid.width_window, Grid.height_window, Grid.same_window] at hx hy hs
    exact .keep ⟨by omega, by omega, hs⟩ ih
  | remove _ ih => exact .remove ih
  | add _ ih => exact .add ih

namespace Grid

variable {g : Grid}

/-- A grid and its flipped one have the same distance, since shortest paths can be read backwards. -/
@[simp] theorem distance_flip (g : Grid) : g.flip.distance = g.distance := by
  have bound : ∀ h : Grid, h.flip.distance ≤ h.distance := by
    intro h
    obtain ⟨steps, path, he⟩ := h.exists_path h.width h.height
    have back := path.cost_flip_le (Nat.le_refl _) (Nat.le_refl _)
    simpa [distance, he] using back
  have twice : g.flip.flip.distance = g.distance := cost_flip_flip g.width g.height
  have := bound g
  have := bound g.flip
  omega

/-- Ways to a point and on from it make a way through the grid. -/
theorem distance_le_cost_add {x y : Nat} (hx : x ≤ g.width) (hy : y ≤ g.height) :
    g.distance ≤ g.cost x y + g.flip.cost (g.width - x) (g.height - y) := by
  obtain ⟨steps, path, he⟩ := g.flip.exists_path (g.width - x) (g.height - y)
  have back := path.cost_flip_le (Nat.sub_le _ _) (Nat.sub_le _ _)
  simp only [width_flip, height_flip, Nat.sub_zero, cost_flip_flip, he, Nat.sub_sub_self hx,
    Nat.sub_sub_self hy] at back
  exact back

/-- For each number of edits, a shortest path passes through a point that is reached with so many of
them and left with the others. -/
theorem exists_between (g : Grid) {e : Nat} (h : e ≤ g.distance) :
    ∃ x y, x ≤ g.width ∧ y ≤ g.height ∧ g.cost x y ≤ e ∧
      g.flip.cost (g.width - x) (g.height - y) ≤ g.distance - e := by
  obtain ⟨steps, path, he⟩ := g.exists_path g.width g.height
  obtain ⟨a, b, rfl, ha⟩ := exists_append_of_le_edits (Nat.le_trans h (Nat.le_of_eq he.symm))
  obtain ⟨x, y, first, second⟩ := path.split
  have bound := second.le
  have there := first.cost_le
  have back := second.cost_flip_le (Nat.le_refl _) (Nat.le_refl _)
  rw [edits_append] at he
  simp only [cost_zero_left, Nat.sub_self, Nat.zero_add] at there back
  refine ⟨x, y, bound.1, bound.2, by omega, ?_⟩
  rw [distance]
  omega

end Grid

end Morphing.Diff
