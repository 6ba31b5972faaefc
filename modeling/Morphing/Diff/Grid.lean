/-!
# The edit grid of two sequences

A point `(x, y)` of the grid stands for having read `x` old and `y` new tokens. A step to the right
removes an old token, a step down adds a new one, and a diagonal step, allowed where the two tokens
are the same, keeps a token. The grid knows the tokens only through `same`, so whatever is computed
from it depends on nothing else.

Reading both sequences backwards turns a grid around (`flip`), which makes trailing runs leading
ones and a backward search a forward one.
-/

namespace Morphing.Diff

/-- The edit grid of `width` old by `height` new tokens: `same x y` says whether the old token at
`x` and the new token at `y` are the same. -/
structure Grid where
  width : Nat
  height : Nat
  same : Nat → Nat → Bool

/-- The number of diagonal steps that can be taken from `(x, y)` in a row, at most `limit`. -/
def diagonalRun (same : Nat → Nat → Bool) (x y : Nat) : (limit : Nat) → Nat
  | 0 => 0
  | limit + 1 => if same x y then diagonalRun same (x + 1) (y + 1) limit + 1 else 0

theorem diagonalRun_le (same : Nat → Nat → Bool) (x y limit : Nat) :
    diagonalRun same x y limit ≤ limit := by
  induction limit generalizing x y with
  | zero => exact Nat.le_refl 0
  | succ limit ih =>
    rw [diagonalRun]
    split
    · exact Nat.succ_le_succ (ih (x + 1) (y + 1))
    · exact Nat.zero_le _

namespace Grid

/-- The grid of two lists, whose elements are compared with `==`. -/
def ofLists [BEq α] (old new : List α) : Grid :=
  let oldAt := old.toArray
  let newAt := new.toArray
  { width := oldAt.size
    height := newAt.size
    same := fun x y =>
      match oldAt[x]?, newAt[y]? with
      | some a, some b => a == b
      | _, _ => false }

@[simp] theorem width_ofLists [BEq α] (old new : List α) :
    (ofLists old new).width = old.length := by simp [ofLists]

@[simp] theorem height_ofLists [BEq α] (old new : List α) :
    (ofLists old new).height = new.length := by simp [ofLists]

/-- The part of a grid that starts at `(x, y)` and has the given size. -/
def window (g : Grid) (x y width height : Nat) : Grid where
  width := width
  height := height
  same i j := g.same (x + i) (y + j)

@[simp] theorem width_window (g : Grid) (x y w h : Nat) : (g.window x y w h).width = w := rfl

@[simp] theorem height_window (g : Grid) (x y w h : Nat) : (g.window x y w h).height = h := rfl

@[simp] theorem same_window (g : Grid) (x y w h i j : Nat) :
    (g.window x y w h).same i j = g.same (x + i) (y + j) := rfl

/-- The grid of the two sequences read backwards. -/
def flip (g : Grid) : Grid where
  width := g.width
  height := g.height
  same i j := g.same (g.width - 1 - i) (g.height - 1 - j)

@[simp] theorem width_flip (g : Grid) : g.flip.width = g.width := rfl

@[simp] theorem height_flip (g : Grid) : g.flip.height = g.height := rfl

@[simp] theorem same_flip (g : Grid) (i j : Nat) :
    g.flip.same i j = g.same (g.width - 1 - i) (g.height - 1 - j) := rfl

/-- The number of diagonal steps from `(x, y)` before the grid ends or two tokens differ. -/
def runFrom (g : Grid) (x y : Nat) : Nat :=
  diagonalRun g.same x y (min (g.width - x) (g.height - y))

theorem runFrom_le_width (g : Grid) (x y : Nat) : g.runFrom x y ≤ g.width - x :=
  Nat.le_trans (diagonalRun_le _ _ _ _) (Nat.min_le_left _ _)

theorem runFrom_le_height (g : Grid) (x y : Nat) : g.runFrom x y ≤ g.height - y :=
  Nat.le_trans (diagonalRun_le _ _ _ _) (Nat.min_le_right _ _)

/-- The length of the common beginning of the two sequences. -/
def leading (g : Grid) : Nat := g.runFrom 0 0

/-- The length of the common end of the two sequences. -/
def trailing (g : Grid) : Nat := g.flip.leading

theorem leading_le_width (g : Grid) : g.leading ≤ g.width := g.runFrom_le_width 0 0

theorem leading_le_height (g : Grid) : g.leading ≤ g.height := g.runFrom_le_height 0 0

theorem trailing_le_width (g : Grid) : g.trailing ≤ g.width := g.flip.leading_le_width

theorem trailing_le_height (g : Grid) : g.trailing ≤ g.height := g.flip.leading_le_height

end Grid

/-- The length of the longest common beginning of two lists. -/
def commonPrefix [BEq α] (old new : List α) : Nat := (Grid.ofLists old new).leading

/-- The length of the longest common end of two lists. -/
def commonSuffix [BEq α] (old new : List α) : Nat := (Grid.ofLists old new).trailing

end Morphing.Diff
