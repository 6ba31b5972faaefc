import Morphing.Morph

/-!
# Frames

A frame is a morph at one budget. The frames of a morph, with growing budgets, show the old text
turn into the new one. A frame is complete if it has reached the new text or has budget left over; a
more generous one would show nothing else, so the frames of a morph end with the first complete one.
-/

namespace Morphing

/-- A morph at one budget. -/
structure Frame where
  text : Text
  budget : Nat
  remaining : Nat
  complete : Bool
deriving DecidableEq, Repr

namespace Morph

/-- A morph at the given budget. -/
def frameAt (m : Morph) (amount : Nat) : Frame :=
  let result := m.run (.ofNat amount)
  { text := result.text
    budget := amount
    remaining := result.budget.remaining
    complete := !result.budget.isExhausted || result.text == m.new }

end Morph

/-- The frames of a morph that are still to come: the next one has the budget `next`. -/
structure Frames where
  morph : Morph
  step : Nat
  next : Option Nat
deriving DecidableEq, Repr

namespace Frames

/-- The next frame, and those after it. -/
def advance? (f : Frames) : Option (Frame × Frames) :=
  match f.next with
  | none => none
  | some budget =>
    let frame := f.morph.frameAt budget
    let next :=
      if frame.complete then none
      else if budget + f.step ≤ maxWord then some (budget + f.step)
      else none
    some (frame, { f with next })

/-- The first `limit` of the frames to come. -/
def take (f : Frames) : (limit : Nat) → List Frame
  | 0 => []
  | limit + 1 =>
    match f.advance? with
    | none => []
    | some (frame, rest) => frame :: rest.take limit

end Frames

namespace Morph

/-- The frames of a morph, with budgets that grow from zero by `step`, or by one if that is zero. -/
def frames (m : Morph) (step : Nat) : Frames := ⟨m, max step 1, some 0⟩

/-- More frames than this a morph cannot have: every character costs at most one unit, and at most
one frame follows after all are paid for. -/
def frameLimit (m : Morph) (step : Nat) : Nat :=
  (m.old.length + m.new.length) / max step 1 + 2

/-- All frames of a morph. -/
def allFrames (m : Morph) (step : Nat) : List Frame := (m.frames step).take (m.frameLimit step)

end Morph

end Morphing
