/-!
# Search frontiers

A frontier remembers, for every diagonal `k` (the points with `x - y = k`), how far to the right a
search has come. The diagonals of a frontier of radius `r` are those with `-r ≤ k < r`; reading or
writing any other diagonal fails.
-/

namespace Morphing.Diff

/-- One cell for each diagonal `k` with `-radius ≤ k < radius`. -/
structure Frontier where
  radius : Nat
  cells : Array Nat
  size_cells : cells.size = 2 * radius

namespace Frontier

/-- The frontier of the given radius whose cells are all zero. -/
def zero (radius : Nat) : Frontier where
  radius := radius
  cells := Array.replicate (2 * radius) 0
  size_cells := by simp

@[simp] theorem radius_zero (radius : Nat) : (zero radius).radius = radius := rfl

/-- The cell that belongs to diagonal `k`. -/
def cell? (f : Frontier) (k : Int) : Option Nat :=
  let i := k + f.radius
  if 0 ≤ i ∧ i < 2 * f.radius then some i.toNat else none

/-- How far the search has come on diagonal `k`. -/
def get? (f : Frontier) (k : Int) : Option Nat := f.cell? k |>.bind (f.cells[·]?)

/-- Record how far the search has come on diagonal `k`. -/
def set? (f : Frontier) (k : Int) (x : Nat) : Option Frontier :=
  match f with
  | ⟨radius, cells, size_cells⟩ =>
    let i := k + radius
    if 0 ≤ i ∧ i < 2 * radius then
      some ⟨radius, cells.setIfInBounds i.toNat x, by simpa using size_cells⟩
    else none

theorem set?_isSome {f : Frontier} {k : Int} (x : Nat) (lower : -f.radius ≤ k)
    (upper : k < f.radius) : (f.set? k x).isSome := by
  have hin : 0 ≤ k + (f.radius : Int) ∧ k + (f.radius : Int) < 2 * f.radius := by omega
  simp [set?, hin]

theorem radius_of_set? {f f' : Frontier} {k : Int} {x : Nat} (h : f.set? k x = some f') :
    f'.radius = f.radius := by
  simp only [set?] at h
  split at h
  · cases h; rfl
  · cases h

/-- Reading a diagonal gives what was last written there. -/
theorem get?_set? {f f' : Frontier} {k : Int} {x : Nat} (h : f.set? k x = some f') (j : Int) :
    f'.get? j = if j = k then some x else f.get? j := by
  simp only [set?] at h
  split at h
  next hin =>
    cases h
    by_cases hj : j = k
    · subst hj
      have hbound : (j + (f.radius : Int)).toNat < f.cells.size := by rw [f.size_cells]; omega
      simp [get?, cell?, hin, hbound]
    · by_cases hr : 0 ≤ j + (f.radius : Int) ∧ j + (f.radius : Int) < 2 * f.radius
      · have hne : (k + (f.radius : Int)).toNat ≠ (j + (f.radius : Int)).toNat := by omega
        simp [get?, cell?, hr, hj, hne]
      · simp [get?, cell?, hr, hj]
  next => cases h

end Frontier

end Morphing.Diff
