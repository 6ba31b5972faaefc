import Morphing.Diff.MiddleSnake

/-!
# Edit scripts

An edit script leads from the beginning of a grid to its end in steps that keep, remove or add one
token. `Grid.script` finds a shortest one by divide and conquer: common beginnings and ends are kept
and what is left between them is split at the beginning of a middle snake.

A script of a diff is in normal form (`removalsFirst`): between two kept tokens, everything that is
removed comes before everything that is added.
-/

namespace Morphing.Diff

/-- One step of an edit script. -/
inductive Step where
  | keep
  | remove
  | add
deriving DecidableEq, Repr

/-- Remove `width` old tokens, then add `height` new ones. -/
def replaceAll (width height : Nat) : List Step :=
  List.replicate width .remove ++ List.replicate height .add

namespace Grid

/-- What is left of a grid between the common beginning and the common end. -/
def core (g : Grid) : Grid :=
  let rest := g.window g.leading g.leading (g.width - g.leading) (g.height - g.leading)
  rest.window 0 0 (rest.width - rest.trailing) (rest.height - rest.trailing)

/-- The length of the common end of what follows the common beginning. -/
def closing (g : Grid) : Nat :=
  (g.window g.leading g.leading (g.width - g.leading) (g.height - g.leading)).trailing

theorem width_core_le (g : Grid) : g.core.width ≤ g.width := by
  simp only [core, width_window]; omega

theorem height_core_le (g : Grid) : g.core.height ≤ g.height := by
  simp only [core, height_window]; omega

/-- Whether a point splits a grid into two parts that are both smaller than the whole. -/
def Splits (g : Grid) (p : Point) : Prop :=
  p.x ≤ g.width ∧ p.y ≤ g.height ∧ 0 < p.x + p.y ∧ p.x + p.y < g.width + g.height

instance (g : Grid) (p : Point) : Decidable (g.Splits p) := by
  unfold Splits; infer_instance

/-- The part of a grid before a point. -/
def before (g : Grid) (p : Point) : Grid := g.window 0 0 p.x p.y

/-- The part of a grid from a point on. -/
def after (g : Grid) (p : Point) : Grid :=
  g.window p.x p.y (g.width - p.x) (g.height - p.y)

/-- A shortest edit script of a grid, and the scratch space as the searches leave it. -/
def scriptWith (g : Grid) (s : Scratch) : Scratch × List Step :=
  let core := g.core
  let (s, inner) :=
    if core.width = 0 ∨ core.height = 0 then (s, replaceAll core.width core.height)
    else
      match middleSnake? core s with
      | some (s, p) =>
        if core.Splits p then
          let (s, first) := scriptWith (core.before p) s
          let (s, second) := scriptWith (core.after p) s
          (s, first ++ second)
        else (s, replaceAll core.width core.height)
      | none => (s, replaceAll core.width core.height)
  (s, List.replicate g.leading .keep ++ inner ++ List.replicate g.closing .keep)
termination_by g.width + g.height
decreasing_by
  all_goals
    rename_i hsplit
    obtain ⟨hx, hy, hpos, hlt⟩ := hsplit
    have hw := g.width_core_le
    have hh := g.height_core_le
    simp only [before, after, width_window, height_window, core] at *
    omega

/-- A shortest edit script of a grid. -/
def script (g : Grid) : List Step := (g.scriptWith (.ofSize (g.width + g.height))).2

end Grid

/-- The normal form of a script: `pending` additions, held back until the next kept token, are
overtaken by the removals in between. -/
def holdAdditions : (pending : Nat) → List Step → List Step
  | pending, [] => List.replicate pending .add
  | pending, .keep :: rest => List.replicate pending .add ++ .keep :: holdAdditions 0 rest
  | pending, .remove :: rest => .remove :: holdAdditions pending rest
  | pending, .add :: rest => holdAdditions (pending + 1) rest

/-- Between two kept tokens, put all removals before all additions. -/
def removalsFirst (script : List Step) : List Step := holdAdditions 0 script

end Morphing.Diff
