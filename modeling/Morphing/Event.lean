import Morphing.Text.Quoted

/-!
# Events

What a morph has to tell about its decisions. Events say what happened; `Event.message` puts it into
words.
-/

namespace Morphing

/-- How much an event matters. -/
inductive Level where
  | error
  | warn
  | info
  | debug
  | trace
deriving DecidableEq, Repr

namespace Level

/-- The place of a level in order of detail. -/
def rank : Level → Nat
  | error => 1
  | warn => 2
  | info => 3
  | debug => 4
  | trace => 5

/-- The name of a level. -/
def name : Level → String
  | error => "ERROR"
  | warn => "WARN"
  | info => "INFO"
  | debug => "DEBUG"
  | trace => "TRACE"

end Level

/-- A noteworthy step of a morph. -/
inductive Event where
  /-- An added word without a partner has left a space in its place. -/
  | replacedToken (token : Text)
  /-- Removed words were left over at the end of a line. -/
  | droppedTokens (count : Nat)
  /-- A removed line was left over. -/
  | droppedLine (line : Text)
  /-- A modified line is about to be settled. -/
  | resolving (removals insertions : Nat) (content : Text)
  /-- A morph has come to its end. -/
  | morphed (pairs spent initial : Nat)
deriving DecidableEq, Repr

namespace Event

/-- How much an event matters: only the last event of a morph is more than a trace. -/
def level : Event → Level
  | morphed .. => .debug
  | _ => .trace

/-- An event in words. -/
def message : Event → String
  | replacedToken token =>
    "Replacing unpaired token " ++ String.ofList (Text.quoted token) ++ " with a separator"
  | droppedTokens count => s!"Dropping {count} unpaired removed tokens"
  | droppedLine line =>
    "Dropping unpaired removed line " ++ String.ofList (Text.quoted line)
  | resolving removals insertions content =>
    s!"Resolving {removals} removal and {insertions} insertion candidates of " ++
      String.ofList (Text.quoted content)
  | morphed pairs spent initial =>
    s!"Morphed {pairs} line pairs, spent {spent} of {initial} budget"

end Event

end Morphing
