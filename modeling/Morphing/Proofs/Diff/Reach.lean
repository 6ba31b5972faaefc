import Morphing.Diff.MiddleSnake
import Morphing.Proofs.Diff.Cost

/-!
# How far a search reaches

Round `d` of a search records, for every diagonal it visits, the furthest point that `d` right or
down steps lead to. `Furthest` is that specification, and `Frontier.Layer` says that a frontier meets
it on all diagonals of a round. A round reads only what the round before it has written: its own
diagonals have the other parity, so that the frontier can be overwritten in place.

The main statement is `Frontier.sweep_spec`: a sweep never leaves the frontier, and either stops at a
snake that meets the other search or completes the layer of its round.
-/

namespace Morphing.Diff

/-- The furthest point of diagonal `k` that takes no more than `d` right or down steps is the one in
column `x`. -/
structure Furthest (g : Grid) (d : Nat) (k : Int) (x : Nat) : Prop where
  diagonal_le : k ≤ x
  cost_le_iff : ∀ u v : Nat, (u : Int) - v = k → (g.cost u v ≤ d ↔ u ≤ x)

namespace Furthest

variable {g : Grid} {d : Nat} {k : Int} {x : Nat}

/-- The furthest point itself, with its row. -/
theorem exists_row (h : Furthest g d k x) :
    ∃ y : Nat, (x : Int) - y = k ∧ g.cost x y ≤ d := by
  have hk := h.diagonal_le
  refine ⟨(x - k).toNat, by omega, ?_⟩
  exact (h.cost_le_iff x _ (by omega)).mpr (Nat.le_refl x)

/-- A search gets no further away from its first diagonal than its steps allow. -/
theorem diagonal_bounds (h : Furthest g d k x) : -(d : Int) ≤ k ∧ k ≤ d := by
  obtain ⟨y, hy, hc⟩ := h.exists_row
  have right := g.le_cost_add_right x y
  have left := g.le_cost_add_left x y
  omega

end Furthest

/-- A path with `d` steps enters diagonal `k` at `(x, y)`, beyond all points that the neighbouring
diagonals lead to with fewer. -/
structure Enters (g : Grid) (d : Nat) (k : Int) (x y : Nat) : Prop where
  diagonal : (x : Int) - y = k
  cost_le : g.cost x y ≤ d
  below : ∀ u v : Nat, (u : Int) - v = k - 1 → g.cost u v + 1 ≤ d → u + 1 ≤ x
  above : ∀ u v : Nat, (u : Int) - v = k + 1 → g.cost u v + 1 ≤ d → u ≤ x

namespace Enters

variable {g : Grid} {d : Nat} {k : Int} {x y : Nat}

/-- The furthest point is where the matches end that follow such an entry. -/
theorem furthest (h : Enters g d k x y) : Furthest g d k (x + g.runFrom x y) := by
  have hk := h.diagonal
  have slid : g.cost (x + g.runFrom x y) (y + g.runFrom x y) = g.cost x y :=
    Grid.cost_slide fun _ hi => Grid.matches_of_lt_runFrom hi
  have stop := g.cost_of_not_matches (g.not_matches_runFrom x y)
  generalize g.runFrom x y = r at slid stop
  refine ⟨by omega, ?_⟩
  intro u v huv
  constructor
  · -- A point beyond would make the first one behind the run as cheap; it is entered from a neighbour.
    intro hc
    apply Nat.not_lt.mp
    intro hfar
    obtain ⟨j, rfl⟩ : ∃ j, u = x + r + 1 + j := ⟨u - (x + r + 1), by omega⟩
    obtain rfl : v = y + r + 1 + j := by omega
    have mono := g.cost_le_add (x + r + 1) (y + r + 1) j
    obtain hle | hle := Nat.le_total (g.cost (x + r) (y + r + 1)) (g.cost (x + r + 1) (y + r))
    · have := h.below (x + r) (y + r + 1) (by omega) (by omega)
      omega
    · have := h.above (x + r + 1) (y + r) (by omega) (by omega)
      omega
  · intro hu
    obtain ⟨j, hj⟩ : ∃ j, x + r = u + j := ⟨x + r - u, by omega⟩
    have hj' : y + r = v + j := by omega
    have mono := g.cost_le_add u v j
    rw [← hj, ← hj', slid] at mono
    exact Nat.le_trans mono h.cost_le

/-- One step down from the furthest point of the diagonal above. -/
theorem of_above (far : Furthest g d (k + 1) x)
    (below : ∀ u v : Nat, (u : Int) - v = k - 1 → g.cost u v ≤ d → u + 1 ≤ x) :
    ∃ y, Enters g (d + 1) k x y := by
  obtain ⟨y, hy, hc⟩ := far.exists_row
  have step := g.cost_down_le x y
  refine ⟨y + 1, by omega, by omega, ?_, ?_⟩
  · intro u v huv hcost
    exact below u v huv (Nat.le_of_succ_le_succ hcost)
  · intro u v huv hcost
    exact (far.cost_le_iff u v huv).mp (Nat.le_of_succ_le_succ hcost)

/-- One step to the right from the furthest point of the diagonal below. -/
theorem of_below (far : Furthest g d (k - 1) x)
    (above : ∀ u v : Nat, (u : Int) - v = k + 1 → g.cost u v ≤ d → u ≤ x + 1) :
    ∃ y, Enters g (d + 1) k (x + 1) y := by
  obtain ⟨y, hy, hc⟩ := far.exists_row
  have step := g.cost_right_le x y
  refine ⟨y, by omega, by omega, ?_, ?_⟩
  · intro u v huv hcost
    exact Nat.succ_le_succ ((far.cost_le_iff u v huv).mp (Nat.le_of_succ_le_succ hcost))
  · intro u v huv hcost
    exact above u v huv (Nat.le_of_succ_le_succ hcost)

end Enters

theorem mem_diagonals {d : Nat} {k : Int} :
    k ∈ diagonals d ↔ -(d : Int) ≤ k ∧ k ≤ d ∧ (d - k) % 2 = 0 := by
  simp only [diagonals, List.mem_map, List.mem_range]
  constructor
  · rintro ⟨i, hi, rfl⟩
    omega
  · rintro ⟨hl, hu, hp⟩
    exact ⟨((d - k) / 2).toNat, by omega, by omega⟩

theorem nodup_diagonals (d : Nat) : (diagonals d).Nodup := by
  refine List.Pairwise.map _ ?_ List.nodup_range
  intro i j hij heq
  exact hij (by omega)

namespace Frontier

/-- A frontier holds the furthest points of round `d`. -/
def Layer (f : Frontier) (g : Grid) (d : Nat) : Prop :=
  ∀ k ∈ diagonals d, ∃ x, f.get? k = some x ∧ Furthest g d k x

/-- What round `d` may read: the layer before it, or the seed of the first round. -/
def Ready (f : Frontier) (g : Grid) : (d : Nat) → Prop
  | 0 => f.get? 1 = some 0
  | d + 1 => f.Layer g d

variable {f f' : Frontier} {g : Grid} {d : Nat} {k : Int}

/-- Writing a diagonal of the round does not touch what the round reads. -/
theorem Ready.of_set? {x : Nat} (ready : f.Ready g d) (hk : k ∈ diagonals d)
    (hset : f.set? k x = some f') : f'.Ready g d := by
  rw [mem_diagonals] at hk
  cases d with
  | zero =>
    have hne : (1 : Int) ≠ k := by omega
    rw [Ready, get?_set? hset, if_neg hne]
    exact ready
  | succ d =>
    intro j hj
    have hj' := mem_diagonals.mp hj
    have hne : j ≠ k := by omega
    rw [get?_set? hset, if_neg hne]
    exact ready j hj

/-- Where a search enters a diagonal in round `d`. -/
theorem exists_enter (ready : f.Ready g d) (hk : k ∈ diagonals d) :
    ∃ x y : Nat, f.enter? d k = some x ∧ Enters g d k x y := by
  have hk' := mem_diagonals.mp hk
  cases d with
  | zero =>
    obtain rfl : k = 0 := by omega
    refine ⟨0, 0, ?_, by omega, by simp, by omega, by omega⟩
    have ready : f.get? 1 = some 0 := ready
    simpa [enter?] using ready
  | succ d =>
    -- On the two outer diagonals only one neighbour can have been reached at all.
    have outside : ∀ u v : Nat, (d : Int) < u - v ∨ (u : Int) - v < -d → ¬g.cost u v ≤ d := by
      intro u v huv hc
      have right := g.le_cost_add_right u v
      have left := g.le_cost_add_left u v
      omega
    by_cases hlow : k = -((d + 1 : Nat) : Int)
    · obtain ⟨x, hget, far⟩ := ready (k + 1) (mem_diagonals.mpr (by omega))
      have below : ∀ u v : Nat, (u : Int) - v = k - 1 → g.cost u v ≤ d → u + 1 ≤ x := by
        intro u v huv hc
        exact absurd hc (outside u v (by omega))
      obtain ⟨y, henters⟩ := Enters.of_above far below
      exact ⟨x, y, by rw [enter?, if_pos hlow, hget], henters⟩
    by_cases hhigh : k = (d + 1 : Nat)
    · obtain ⟨x, hget, far⟩ := ready (k - 1) (mem_diagonals.mpr (by omega))
      have above : ∀ u v : Nat, (u : Int) - v = k + 1 → g.cost u v ≤ d → u ≤ x + 1 := by
        intro u v huv hc
        exact absurd hc (outside u v (by omega))
      obtain ⟨y, henters⟩ := Enters.of_below far above
      exact ⟨x + 1, y, by rw [enter?, if_neg hlow, if_pos hhigh, hget]; rfl, henters⟩
    · obtain ⟨below, hget, far⟩ := ready (k - 1) (mem_diagonals.mpr (by omega))
      obtain ⟨above, hget', far'⟩ := ready (k + 1) (mem_diagonals.mpr (by omega))
      have henter : f.enter? (d + 1) k =
          some (if below < above then above else below + 1) := by
        rw [enter?, if_neg hlow, if_neg hhigh, hget, hget']
        rfl
      by_cases hlt : below < above
      · rw [if_pos hlt] at henter
        have before : ∀ u v : Nat, (u : Int) - v = k - 1 → g.cost u v ≤ d → u + 1 ≤ above := by
          intro u v huv hc
          exact Nat.lt_of_le_of_lt ((far.cost_le_iff u v huv).mp hc) hlt
        obtain ⟨y, henters⟩ := Enters.of_above far' before
        exact ⟨above, y, henter, henters⟩
      · rw [if_neg hlt] at henter
        have before : ∀ u v : Nat, (u : Int) - v = k + 1 → g.cost u v ≤ d → u ≤ below + 1 := by
          intro u v huv hc
          have := (far'.cost_le_iff u v huv).mp hc
          omega
        obtain ⟨y, henters⟩ := Enters.of_below far before
        exact ⟨below + 1, y, henter, henters⟩

end Frontier

/-- A snake that ends a furthest path of round `d` on diagonal `k`. -/
structure Snake.Ends (g : Grid) (d : Nat) (k : Int) (s : Snake) : Prop where
  diagonal_start : (s.start.x : Int) - s.start.y = k
  cost_start : g.cost s.start.x s.start.y ≤ d
  run : ∀ i, i < s.length → g.Matches (s.start.x + i) (s.start.y + i)
  furthest : Furthest g d k s.finish.x

namespace Frontier

variable {f f' : Frontier} {g : Grid} {d : Nat} {k : Int} {meets : Int → Snake → Option Bool}

theorem exists_snake (ready : f.Ready g d) (hk : k ∈ diagonals d) :
    ∃ s, f.snake? g d k = some s ∧ s.Ends g d k := by
  obtain ⟨x, y, henter, henters⟩ := exists_enter ready hk
  have hdiag := henters.diagonal
  have hrow : ((x : Int) - k).toNat = y := by omega
  have hpos : ¬(x : Int) - k < 0 := by omega
  refine ⟨⟨⟨x, y⟩, g.runFrom x y⟩, ?_, hdiag, henters.cost_le, ?_, henters.furthest⟩
  · rw [snake?, henter]
    show (if (x : Int) - k < 0 then none else some _) = _
    rw [if_neg hpos, hrow]
  · intro i hi
    exact Grid.matches_of_lt_runFrom hi

/-- How a sweep over the diagonals `ks` ends: at a snake that meets the other search, or with all
their furthest points recorded and no such snake among them. -/
inductive Swept (f' : Frontier) (g : Grid) (d : Nat) (meets : Int → Snake → Option Bool)
    (ks : List Int) : Option Snake → Prop where
  | met {k : Int} {s : Snake} : k ∈ ks → s.Ends g d k → meets k s = some true →
      Swept f' g d meets ks (some s)
  | passed : (∀ k ∈ ks, ∃ s : Snake, s.Ends g d k ∧ meets k s = some false ∧
      f'.get? k = some s.finish.x) → Swept f' g d meets ks none

/-- A sweep over all diagonals of its round that meets nothing has completed its layer. -/
theorem Swept.layer (h : Swept f' g d meets (diagonals d) none) : f'.Layer g d := by
  cases h with
  | passed hall =>
    intro k hk
    obtain ⟨s, hends, _, hget⟩ := hall k hk
    exact ⟨_, hget, hends.furthest⟩

/-- A sweep over diagonals of its round stays within the frontier, and the diagonals that it does not
visit keep their values. -/
theorem sweep_spec (meets : Int → Snake → Option Bool) (ready : f.Ready g d)
    (hradius : d < f.radius) (hmeets : ∀ k ∈ diagonals d, ∀ s, (meets k s).isSome)
    {ks : List Int} (hsub : ∀ k ∈ ks, k ∈ diagonals d) (hnodup : ks.Nodup) :
    ∃ f' r, f.sweep g d meets ks = some (f', r) ∧ f'.radius = f.radius ∧
      (∀ j, j ∉ ks → f'.get? j = f.get? j) ∧ Swept f' g d meets ks r := by
  induction ks generalizing f with
  | nil => exact ⟨f, none, rfl, rfl, fun _ _ => rfl, .passed (by simp)⟩
  | cons k ks ih =>
    have hk := hsub k (by simp)
    have hk' := mem_diagonals.mp hk
    obtain ⟨s, hsnake, hends⟩ := exists_snake ready hk
    obtain ⟨f₁, hset⟩ := Option.isSome_iff_exists.mp
      (set?_isSome (f := f) (k := k) s.finish.x (by omega) (by omega))
    have hr₁ := radius_of_set? hset
    obtain ⟨b, hb⟩ := Option.isSome_iff_exists.mp (hmeets k hk s)
    have keeps : ∀ j, j ≠ k → f₁.get? j = f.get? j := by
      intro j hj
      rw [get?_set? hset, if_neg hj]
    cases b with
    | true =>
      refine ⟨f₁, some s, by simp [sweep, hsnake, hset, hb], hr₁, ?_, .met (by simp) hends hb⟩
      intro j hj
      apply keeps
      rintro rfl
      exact hj List.mem_cons_self
    | false =>
      obtain ⟨hnot, hnodup'⟩ := List.nodup_cons.mp hnodup
      obtain ⟨f', r, hsweep, hr, hother, hswept⟩ := ih (ready.of_set? hk hset) (by omega)
        (fun j hj => hsub j (List.mem_cons_of_mem k hj)) hnodup'
      refine ⟨f', r, by simp [sweep, hsnake, hset, hb, hsweep], hr.trans hr₁, ?_, ?_⟩
      · intro j hj
        rw [List.mem_cons, not_or] at hj
        exact (hother j hj.2).trans (keeps j hj.1)
      · cases hswept with
        | met hj hs hm => exact .met (List.mem_cons_of_mem k hj) hs hm
        | passed hall =>
          apply Swept.passed
          intro j hj
          obtain rfl | hj := List.mem_cons.mp hj
          · refine ⟨s, hends, hb, ?_⟩
            rw [hother j hnot, get?_set? hset, if_pos rfl]
          · exact hall j hj

end Frontier

end Morphing.Diff
