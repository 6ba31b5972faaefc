import Mathlib.Order.Bounds.Defs
import Morphing.Proofs.Diff.Alignment
import Morphing.Proofs.Diff.Course

/-!
# What a search knows after a round

`Grid.Reached d x y` says that some path with exactly `d` right or down steps leads to `(x, y)`.
When a round of the searches ends without a meeting, the frontiers hold the furthest points of such
paths, one for each diagonal of the round, in the grid and in the grid of the two sequences read
backwards.

That a round has been completed is all that is needed: it cannot have been if a cell was missing.
-/

namespace Morphing.Diff

/-! ### Paths with a given number of steps -/

theorem Path.of_matches {g h : Grid} {steps : List Step} {x y u v : Nat}
    (path : Path g steps x y u v) (same : ∀ i j, g.Matches i j → h.Matches i j) :
    Path h steps x y u v := by
  induction path with
  | nil => exact .nil _ _
  | keep hm _ ih => exact .keep (same _ _ hm) ih
  | remove _ ih => exact .remove ih
  | add _ ih => exact .add ih

namespace Grid

/-- Exactly `d` right or down steps, with diagonal steps in between, lead to `(x, y)`. Right and
down steps may leave the grid, diagonal steps may not. -/
def Reached (g : Grid) (d x y : Nat) : Prop := ∃ steps, Path g steps 0 0 x y ∧ edits steps = d

/-- The columns in which paths with exactly `d` right or down steps end on diagonal `k`. -/
def columns (g : Grid) (d : Nat) (k : Int) : Set Nat :=
  {x | ∃ y : Nat, (x : Int) - y = k ∧ g.Reached d x y}

variable {g h : Grid} {d : Nat} {k : Int}

theorem Reached.cost_le {x y : Nat} (reached : g.Reached d x y) : g.cost x y ≤ d := by
  obtain ⟨steps, path, rfl⟩ := reached
  simpa using path.cost_le

theorem reached_cost (g : Grid) (x y : Nat) : g.Reached (g.cost x y) x y := g.exists_path x y

/-- Paths see nothing of a grid but its matches. -/
theorem Reached.of_matches {x y : Nat} (reached : g.Reached d x y)
    (same : ∀ i j, g.Matches i j → h.Matches i j) : h.Reached d x y := by
  obtain ⟨steps, path, he⟩ := reached
  exact ⟨steps, path.of_matches same, he⟩

theorem columns_congr (same : ∀ i j, g.Matches i j ↔ h.Matches i j) :
    g.columns d k = h.columns d k := by
  ext x
  constructor
  · rintro ⟨y, hy, reached⟩
    exact ⟨y, hy, reached.of_matches fun i j => (same i j).mp⟩
  · rintro ⟨y, hy, reached⟩
    exact ⟨y, hy, reached.of_matches fun i j => (same i j).mpr⟩

end Grid

/-- On the diagonals of a round, the furthest point is the furthest that takes all of its steps:
with steps to spare, a right and a down step would lead beyond it. -/
theorem Furthest.isGreatest {g : Grid} {d : Nat} {k : Int} {x : Nat} (far : Furthest g d k x)
    (hk : k ∈ diagonals d) : IsGreatest (g.columns d k) x := by
  have parity := (mem_diagonals.mp hk).2.2
  obtain ⟨y, hy, cost⟩ := far.exists_row
  have beyond : ¬g.cost (x + 1) (y + 1) ≤ d := by
    intro more
    have := (far.cost_le_iff (x + 1) (y + 1) (by omega)).mp more
    omega
  have right := g.cost_right_le x y
  have down := g.cost_down_le (x + 1) y
  have parity' := g.cost_parity x y
  have exact : g.cost x y = d := by omega
  constructor
  · exact ⟨y, hy, exact ▸ g.reached_cost x y⟩
  · rintro u ⟨v, hv, reached⟩
    exact (far.cost_le_iff u v hv).mp reached.cost_le

/-! ### Ranges of two sequences -/

namespace Grid

section Ranges

variable [BEq α] {old new : List α} {a n b m i j : Nat}

theorem matches_ofLists_iff : (ofLists old new).Matches i j ↔
    ∃ o ∈ old[i]?, ∃ u ∈ new[j]?, (o == u) = true := by
  rw [matches_ofLists]
  constructor
  · rintro ⟨hi, hj, same⟩
    exact ⟨_, List.getElem?_eq_getElem hi, _, List.getElem?_eq_getElem hj, same⟩
  · rintro ⟨o, ho, u, hu, same⟩
    obtain ⟨hi, rfl⟩ := List.getElem?_eq_some_iff.mp ho
    obtain ⟨hj, rfl⟩ := List.getElem?_eq_some_iff.mp hu
    exact ⟨hi, hj, same⟩

/-- A window of the grid of two lists is the grid of two ranges of theirs. -/
theorem matches_window_ofLists (hold : a + n ≤ old.length) (hnew : b + m ≤ new.length) :
    ((ofLists old new).window a b n m).Matches i j ↔
      (ofLists ((old.drop a).take n) ((new.drop b).take m)).Matches i j := by
  rw [matches_window (by simpa using hold) (by simpa using hnew), matches_ofLists_iff,
    matches_ofLists_iff, List.getElem?_take, List.getElem?_take, List.getElem?_drop,
    List.getElem?_drop]
  by_cases hi : i < n
  · by_cases hj : j < m <;> simp [hi, hj]
  · simp [hi]

theorem matches_flip_iff {g : Grid} : g.flip.Matches i j ↔
    i < g.width ∧ j < g.height ∧ g.Matches (g.width - 1 - i) (g.height - 1 - j) := by
  simp only [Matches, width_flip, height_flip, same_flip]
  constructor
  · rintro ⟨hi, hj, same⟩
    exact ⟨hi, hj, by omega, by omega, same⟩
  · rintro ⟨hi, hj, _, _, same⟩
    exact ⟨hi, hj, same⟩

/-- Reading both lists backwards turns their grid around. -/
theorem matches_flip_ofLists :
    (ofLists old new).flip.Matches i j ↔ (ofLists old.reverse new.reverse).Matches i j := by
  rw [matches_flip_iff, width_ofLists, height_ofLists, matches_ofLists_iff, matches_ofLists_iff]
  by_cases hi : i < old.length
  · by_cases hj : j < new.length
    · rw [List.getElem?_reverse hi, List.getElem?_reverse hj]
      exact ⟨fun h => h.2.2, fun same => ⟨hi, hj, same⟩⟩
    · simp [hj]
  · simp [hi]

theorem matches_flip_window_ofLists (hold : a + n ≤ old.length) (hnew : b + m ≤ new.length) :
    ((ofLists old new).window a b n m).flip.Matches i j ↔
      (ofLists ((old.drop a).take n).reverse ((new.drop b).take m).reverse).Matches i j := by
  have width : ((old.drop a).take n).length = n := by
    rw [List.length_take, List.length_drop]
    omega
  have height : ((new.drop b).take m).length = m := by
    rw [List.length_take, List.length_drop]
    omega
  rw [← matches_flip_ofLists, matches_flip_iff, matches_flip_iff, matches_window_ofLists hold hnew,
    width_window, height_window, width_ofLists, height_ofLists, width, height]

end Ranges

end Grid

open Grid

/-- The searches of two ranges complete every round that cannot cover their distance yet. After a
completed round `d`, the forward frontier holds on each of the diagonals `d, d - 2, …, -d` the last
column that exactly `d` right or down steps lead to, and the backward frontier the same of the two
ranges read backwards. None of these points lies left of or above the grid. -/
theorem search_furthest [BEq α] (old new : List α) {a n b m : Nat} (hold : a + n ≤ old.length)
    (hnew : b + m ≤ new.length) (s : Scratch) (d : Nat) :
    (s.Fits ((n + m + 1) / 2 + 1) → 2 * d < ((ofLists old new).window a b n m).distance →
      ∃ s₁, s.Reaches ((ofLists old new).window a b n m) (d + 1) s₁) ∧
    ∀ s₁, s.Reaches ((ofLists old new).window a b n m) (d + 1) s₁ → ∀ k ∈ diagonals d,
      ∃ x u : Nat, s₁.forward.get? k = some x ∧ s₁.backward.get? k = some u ∧
        IsGreatest ((ofLists ((old.drop a).take n) ((new.drop b).take m)).columns d k) x ∧
        IsGreatest ((ofLists ((old.drop a).take n).reverse
          ((new.drop b).take m).reverse).columns d k) u ∧
        0 ≤ (x : Int) - k ∧ 0 ≤ (u : Int) - k := by
  constructor
  · intro fits hd
    have most := ((ofLists old new).window a b n m).distance_le_sum
    rw [width_window, height_window] at most
    exact Scratch.exists_reaches (g := (ofLists old new).window a b n m) (fits.mono (by omega)) fits
      (by omega)
  · intro s₁ completed k hk
    obtain ⟨⟨forward, backward⟩, _⟩ := completed.ready
    obtain ⟨x, hx, far⟩ := forward k hk
    obtain ⟨u, hu, far'⟩ := backward k hk
    have there := far.isGreatest hk
    have back := far'.isGreatest hk
    rw [columns_congr fun i j => matches_window_ofLists hold hnew] at there
    rw [columns_congr fun i j => matches_flip_window_ofLists hold hnew] at back
    exact ⟨x, u, hx, hu, there, back, Int.sub_nonneg_of_le far.diagonal_le,
      Int.sub_nonneg_of_le far'.diagonal_le⟩

/-- Between `a` and `b, c, d, e, f`, the forward search has run past the right edge in round 2. -/
theorem search_furthest_beyond : ∃ s₁ : Scratch,
    0 + 1 ≤ ['a'].length ∧ 0 + 5 ≤ ['b', 'c', 'd', 'e', 'f'].length ∧
    (Scratch.ofSize 6).Reaches ((ofLists ['a'] ['b', 'c', 'd', 'e', 'f']).window 0 0 1 5) 3 s₁ ∧
    (2 : Int) ∈ diagonals 2 ∧ s₁.forward.get? 2 = some 2 ∧
    IsGreatest ((ofLists ['a'] ['b', 'c', 'd', 'e', 'f']).columns 2 2) 2 := by
  have completed : ∃ s₁,
      (Scratch.ofSize 6).Reaches ((ofLists ['a'] ['b', 'c', 'd', 'e', 'f']).window 0 0 1 5) 3 s₁ ∧
        s₁.forward.get? 2 = some 2 :=
    ⟨_, .next (.next (.next (.begin rfl) rfl) rfl) rfl, rfl⟩
  obtain ⟨s₁, reaches, two⟩ := completed
  have hold : 0 + 1 ≤ ['a'].length := by decide
  have hnew : 0 + 5 ≤ ['b', 'c', 'd', 'e', 'f'].length := by decide
  have hk : (2 : Int) ∈ diagonals 2 := by decide
  obtain ⟨x, u, hx, _, there, _⟩ := (search_furthest ['a'] ['b', 'c', 'd', 'e', 'f'] hold hnew
    (.ofSize 6) 2).2 s₁ reaches 2 hk
  cases two.symm.trans hx
  exact ⟨s₁, hold, hnew, reaches, hk, two, there⟩

end Morphing.Diff
