import Morphing.Diff.Frontier
import Morphing.Diff.Grid

/-!
# The middle snake of an edit grid

Two searches walk the grid in rounds, one from its beginning and one, in the flipped grid, from its
end. Round `d` extends the furthest paths with `d` right or down steps, one for each of the
diagonals `d, d - 2, …, -d`, and follows the run of diagonal steps (the snake) after each. As soon
as the two searches overlap on a diagonal, a shortest edit script passes through the snake that
closed the gap, and its beginning splits the problem in two.

The searches keep their state in two frontiers, which can be used again for any other grid that is
no larger: every cell is written before it is read. Whatever cannot happen on a grid with both sides
non-empty and on frontiers of its size (fewer cells than rounds, a diagonal outside the frontier, a
point left of or above the grid, no meeting at all) ends the search with `none`.
-/

namespace Morphing.Diff

/-- A point of a grid: `x` old and `y` new tokens have been read. -/
structure Point where
  x : Nat
  y : Nat
deriving DecidableEq, Repr

/-- The point reached from the far corner of a grid by reading backwards up to `p`. -/
def Point.flip? (p : Point) (g : Grid) : Option Point :=
  if p.x ≤ g.width ∧ p.y ≤ g.height then some ⟨g.width - p.x, g.height - p.y⟩ else none

/-- A run of diagonal steps. -/
structure Snake where
  start : Point
  length : Nat
deriving DecidableEq, Repr

/-- Where a snake ends. -/
def Snake.finish (s : Snake) : Point := ⟨s.start.x + s.length, s.start.y + s.length⟩

/-- The diagonals that round `d` of a search visits, in order. -/
def diagonals (d : Nat) : List Int := (List.range (d + 1)).map fun i : Nat => (d : Int) - 2 * i

/-- Where a furthest path with `d` right or down steps enters diagonal `k`: from the diagonal above
by a step down, or from the one below by a step to the right, whichever leads further. -/
def Frontier.enter? (f : Frontier) (d : Nat) (k : Int) : Option Nat :=
  if k = -(d : Int) then f.get? (k + 1)
  else if k = d then (f.get? (k - 1)).map (· + 1)
  else do
    let below ← f.get? (k - 1)
    let above ← f.get? (k + 1)
    return if below < above then above else below + 1

/-- The snake that ends the furthest path with `d` right or down steps on diagonal `k`. -/
def Frontier.snake? (f : Frontier) (g : Grid) (d : Nat) (k : Int) : Option Snake := do
  let x ← f.enter? d k
  let y := (x : Int) - k
  if y < 0 then none
  else return ⟨⟨x, y.toNat⟩, g.runFrom x y.toNat⟩

/-- One sweep of round `d`: extend the path on each of the given diagonals, up to the first snake
that `meets` the other search. -/
def Frontier.sweep (f : Frontier) (g : Grid) (d : Nat) (meets : Int → Snake → Option Bool) :
    List Int → Option (Frontier × Option Snake)
  | [] => some (f, none)
  | k :: ks => do
    let snake ← f.snake? g d k
    let f ← f.set? k snake.finish.x
    if ← meets k snake then return (f, some snake)
    else f.sweep g d meets ks

/-- Whether a snake on diagonal `k` reaches what the opposite search has covered, which is worth
asking only within `reach` diagonals of that search's own middle. -/
def Frontier.covers? (opposite : Frontier) (g : Grid) (reach : Int) (k : Int) (snake : Snake) :
    Option Bool :=
  let k' := (g.width : Int) - g.height - k
  if -reach ≤ k' ∧ k' ≤ reach then
    (opposite.get? k').map fun covered => decide (g.width ≤ snake.finish.x + covered)
  else some false

/-- The frontiers of the two searches. -/
structure Scratch where
  forward : Frontier
  backward : Frontier

/-- Scratch space for the grids of at most `size` old and new tokens together. -/
def Scratch.ofSize (size : Nat) : Scratch :=
  ⟨.zero ((size + 1) / 2 + 1), .zero ((size + 1) / 2 + 1)⟩

/-- Whether the two sides of a grid differ in length by an odd number. The length of every edit
script then is odd as well, and the searches meet in a forward sweep, else in a backward one. -/
def Grid.isOdd (g : Grid) : Bool := (g.width + g.height) % 2 == 1

/-- One round of both searches, with the beginning of the middle snake if they meet. -/
def Scratch.round (g : Grid) (d : Nat) : Scratch → Option (Scratch × Option Point)
  | ⟨forward, backward⟩ => do
    let meets := fun k s => if g.isOdd then backward.covers? g ((d : Int) - 1) k s else some false
    match ← forward.sweep g d meets (diagonals d) with
    | (forward, some snake) => return (⟨forward, backward⟩, some snake.start)
    | (forward, none) =>
      let meets := fun k s => if g.isOdd then some false else forward.covers? g d k s
      match ← backward.sweep g.flip d meets (diagonals d) with
      | (backward, some snake) =>
        let p ← snake.finish.flip? g
        return (⟨forward, backward⟩, some p)
      | (backward, none) => return (⟨forward, backward⟩, none)

/-- Rounds `d, d + 1, …`, at most `count` of them, until the searches meet. -/
def Scratch.rounds (g : Grid) (d : Nat) : (count : Nat) → Scratch → Option (Scratch × Point)
  | 0, _ => none
  | count + 1, s => do
    match ← s.round g d with
    | (s, some p) => return (s, p)
    | (s, none) => s.rounds g (d + 1) count

/-- Both searches begin as if they had come to the first column on diagonal 1. -/
def Scratch.begin? : Scratch → Option Scratch
  | ⟨forward, backward⟩ => return ⟨← forward.set? 1 0, ← backward.set? 1 0⟩

/-- The number of rounds after which the searches have met at the latest. -/
def Grid.roundLimit (g : Grid) : Nat := (g.width + g.height + 1) / 2 + 1

/-- Check that either frontier has at least one cell for each round. -/
def Scratch.check? (g : Grid) (s : Scratch) : Option Scratch :=
  if g.roundLimit ≤ s.forward.cells.size ∧ g.roundLimit ≤ s.backward.cells.size then some s
  else none

/-- The beginning of a middle snake of a grid, and the scratch space as the search leaves it. -/
def middleSnake? (g : Grid) (s : Scratch) : Option (Scratch × Point) := do
  let s ← s.begin?
  let s ← s.check? g
  s.rounds g 0 g.roundLimit

end Morphing.Diff
