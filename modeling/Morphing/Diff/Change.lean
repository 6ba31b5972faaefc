import Morphing.Diff.Script
import Morphing.Token.Basic
import Morphing.Token.Words

/-!
# Diffs

A diff lists what becomes of two sequences: the elements that both have, and those that only the old
or only the new one has, each in its order. It is read off a shortest edit script of their grid. An
element that both have is shown as the old sequence has it.
-/

namespace Morphing

/-- One element of a diff. -/
inductive Change (α : Type u) where
  | kept (item : α)
  | removed (item : α)
  | added (item : α)
deriving DecidableEq, Repr

namespace Change

/-- The element that a change is about. -/
def item : Change α → α
  | kept a | removed a | added a => a

/-- Apply a function to the element that a change is about. -/
def map (f : α → β) : Change α → Change β
  | kept a => kept (f a)
  | removed a => removed (f a)
  | added a => added (f a)

/-- The sign that stands for the kind of a change. -/
def sign : Change α → Char
  | kept _ => '='
  | removed _ => '-'
  | added _ => '+'

/-- A change in writing: its sign, then its text. -/
def render (c : Change Text) : Text := c.sign :: c.item

/-- Read a change that `render` has written. -/
def parse? : Text → Option (Change Text)
  | '=' :: t => some (kept t)
  | '-' :: t => some (removed t)
  | '+' :: t => some (added t)
  | _ => none

@[simp] theorem parse?_render (c : Change Text) : parse? c.render = some c := by
  cases c <;> rfl

end Change

namespace Diff

/-- Carry out an edit script on two sequences, as far as they go. -/
def replay : List Step → (old new : List α) → List (Change α)
  | .keep :: steps, a :: old, _ :: new => .kept a :: replay steps old new
  | .remove :: steps, a :: old, new => .removed a :: replay steps old new
  | .add :: steps, old, b :: new => .added b :: replay steps old new
  | _, _, _ => []

/-- The normal form of a shortest edit script of two sequences. -/
def script [BEq α] (old new : List α) : List Step := removalsFirst (Grid.ofLists old new).script

end Diff

/-- The diff of two sequences whose elements are compared with `==`. -/
def diff [BEq α] (old new : List α) : List (Change α) :=
  Diff.replay (Diff.script old new) old new

namespace Granularity

/-- The diff of two texts in pieces of the given size. -/
def diff (g : Granularity) (old new : Text) : List (Change Text) :=
  Morphing.diff (g.split old) (g.split new)

/-- The diff of two texts in pieces of the given size that are compared by a key. -/
def diffBy [BEq κ] (g : Granularity) (key : Text → κ) (old new : Text) :
    List (Change (Token κ)) :=
  Morphing.diff ((g.split old).map (Token.ofText key)) ((g.split new).map (Token.ofText key))

end Granularity

end Morphing
