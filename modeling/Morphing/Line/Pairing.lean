import Morphing.Diff.Change
import Morphing.Options

/-!
# Pairs of lines

A morph rewrites lines one at a time. `pairLines` decides, from the diff of two texts, which removed
line is rewritten into which added one: an added line takes the last removed line that is still
waiting. Kept lines let removed ones wait on, or, with adjacent pairing, end their wait.
-/

namespace Morphing

/-- What a morph does with a line. -/
inductive LinePair where
  /-- A removed line without a successor. -/
  | unpairedRemoval (line : Text)
  /-- A line that is rewritten. -/
  | modification (old new : Text)
  /-- An added line without a predecessor. -/
  | pureInsertion (line : Text)
  /-- A line that both texts have. -/
  | kept (line : Text)
deriving DecidableEq, Repr

/-- Pair lines while the removed lines `waiting`, the last one first, have no partner yet. -/
def pairLinesWith (pairing : LinePairing) : (waiting : List Text) → List (Change Text) →
    List LinePair
  | waiting, [] => waiting.reverse.map .unpairedRemoval
  | waiting, .removed line :: changes => pairLinesWith pairing (line :: waiting) changes
  | [], .added line :: changes => .pureInsertion line :: pairLinesWith pairing [] changes
  | old :: waiting, .added line :: changes =>
    .modification old line :: pairLinesWith pairing waiting changes
  | waiting, .kept line :: changes =>
    match pairing with
    | .stack => .kept line :: pairLinesWith pairing waiting changes
    | .adjacent =>
      waiting.reverse.map .unpairedRemoval ++ .kept line :: pairLinesWith pairing [] changes

/-- Pair the removed and the added lines of a diff. -/
def pairLines (pairing : LinePairing) (changes : List (Change Text)) : List LinePair :=
  pairLinesWith pairing [] changes

/-- The pairs of lines of two texts. -/
def linePairs (pairing : LinePairing) (old new : Text) : List LinePair :=
  pairLines pairing (Granularity.line.diff old new)

end Morphing
