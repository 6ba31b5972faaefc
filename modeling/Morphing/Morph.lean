import Morphing.Line.Outcome
import Morphing.Text.Bytes

/-!
# Morphs

A morph leads from one text to another in single character edits. `Morph.run` makes as many of them
as a budget allows, from the first line to the last, and returns the text they lead to.
-/

namespace Morphing

/-- One of the two texts of a morph. -/
inductive Side where
  | old
  | new
deriving DecidableEq, Repr

/-- The side in words. -/
def Side.name : Side → String
  | old => "old"
  | new => "new"

/-- Input that is not text. -/
inductive MorphError where
  | binaryInput (side : Side)
deriving DecidableEq, Repr

/-- The error in words. -/
def MorphError.message : MorphError → String
  | binaryInput side => "The " ++ side.name ++ " input is binary or not valid UTF-8"

/-- Two texts and how to lead from one to the other. -/
structure Morph where
  old : Text
  new : Text
  options : Options := {}
deriving DecidableEq, Repr

/-- Where a morph has led to. -/
structure Morphed where
  text : Text
  budget : Budget
  events : List Event
deriving DecidableEq, Repr

namespace Morph

/-- The morph between two texts in bytes, unless one of them is not text. The old one is looked at
first. -/
def ofBytes (old new : ByteArray) (options : Options) : Except MorphError Morph :=
  match Text.ofBytes? old with
  | none => .error (.binaryInput .old)
  | some old =>
    match Text.ofBytes? new with
    | none => .error (.binaryInput .new)
    | some new => .ok ⟨old, new, options⟩

/-- Write pairs of lines in turn. Should one send a position out of range, the work ends there. -/
def writeAll (options : Options) : List LinePair → Progress → Progress
  | [], p => p
  | pair :: pairs, ⟨draft, budget, events⟩ =>
    match pair.write options draft budget with
    | .ok p => writeAll options pairs ⟨p.draft, p.budget, events ++ p.events⟩
    | .error stopped => ⟨stopped.draft, stopped.budget, events⟩

/-- The pairs of lines of a morph. -/
def pairs (m : Morph) : List LinePair := linePairs m.options.linePairing m.old m.new

/-- Make the edits of a morph that a budget allows. -/
def run (m : Morph) (b : Budget) : Morphed :=
  let pairs := m.pairs
  let p := writeAll m.options pairs ⟨.empty, b, []⟩
  let spent := b.remaining - p.budget.remaining
  ⟨p.draft.text, p.budget, p.events ++ [.morphed pairs.length spent b.remaining]⟩

/-- Make the edits between two texts in bytes, from a budget that others spend from as well. The old
text is looked at first, then the new one, and both before anything is spent. -/
def editBytes (old new : ByteArray) (options : Options) :
    ExceptT MorphError (StateM Budget) Morphed := do
  let some old := Text.ofBytes? old | throw (.binaryInput .old)
  let some new := Text.ofBytes? new | throw (.binaryInput .new)
  let morphed := run ⟨old, new, options⟩ (← get)
  set morphed.budget
  return morphed

/-- Make the edits between two texts in bytes that a budget allows. -/
def runBytes (old new : ByteArray) (options : Options) (b : Budget) : Except MorphError Morphed :=
  ((editBytes old new options).run.run b).1

end Morph

end Morphing
