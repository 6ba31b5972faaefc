import Morphing.Diff.Change
import Morphing.Frame
import Morphing.Json.Decode
import Morphing.Token.Basic

/-!
# The JSON forms of the library's types

Options, budgets, frames, tokens and changes are exchanged as JSON. Each type has its form
(`toJson`) and a reader (`ofJson`) for that form and its variants.
-/

namespace Morphing

namespace LinePairing

/-- The names of the ways to pair lines. -/
def names : List (String × LinePairing) := [("stack", stack), ("adjacent", adjacent)]

/-- The JSON form. -/
def toJson : LinePairing → Json
  | stack => .ofString "stack"
  | adjacent => .ofString "adjacent"

/-- Read the JSON form. -/
def ofJson : Json → Json.Decoded LinePairing := Json.toPlainVariant names

end LinePairing

namespace UnpairedTokens

/-- The names of what becomes of unpaired words. -/
def names : List (String × UnpairedTokens) :=
  [("separator", separator), ("reconcile", reconcile)]

/-- The JSON form. -/
def toJson : UnpairedTokens → Json
  | separator => .ofString "separator"
  | reconcile => .ofString "reconcile"

/-- Read the JSON form. -/
def ofJson : Json → Json.Decoded UnpairedTokens := Json.toPlainVariant names

end UnpairedTokens

namespace Options

/-- The JSON form. -/
def toJson (o : Options) : Json :=
  .ofFields [("line_pairing", o.linePairing.toJson), ("unpaired_tokens", o.unpairedTokens.toJson)]

/-- How options are read. A missing field has its default. -/
def reader : Json.RecordReader Options Options where
  name := "MorphOptions"
  start := {}
  fields :=
    [("line_pairing", fun o j => return { o with linePairing := ← LinePairing.ofJson j }),
     ("unpaired_tokens", fun o j => return { o with unpairedTokens := ← UnpairedTokens.ofJson j })]
  finish _ o := .ok o

/-- Read the JSON form. -/
def ofJson : Json → Json.Decoded Options := reader.read

end Options

namespace Side

/-- The names of the sides. -/
def names : List (String × Side) := [("Old", old), ("New", new)]

/-- The JSON form. -/
def toJson : Side → Json
  | old => .ofString "Old"
  | new => .ofString "New"

/-- Read the JSON form. -/
def ofJson : Json → Json.Decoded Side := Json.toPlainVariant names

end Side

namespace Budget

/-- The JSON form. -/
def toJson (b : Budget) : Json :=
  .ofFields [("remaining", .integer b.remaining), ("spent", .integer b.spent)]

/-- A budget of which some fields have been read. -/
structure Unfinished where
  remaining : Option Nat := none
  spent : Option Nat := none

/-- How a budget is read. -/
def reader : Json.RecordReader Unfinished Budget where
  name := "Budget"
  start := {}
  fields :=
    [("remaining", fun b j => return { b with remaining := some (← j.toWord) }),
     ("spent", fun b j => return { b with spent := some (← j.toWord) })]
  finish missing b := do
    let remaining ← Json.required missing "remaining" b.remaining
    let spent ← Json.required missing "spent" b.spent
    return ⟨remaining, spent⟩

/-- Read the JSON form. -/
def ofJson : Json → Json.Decoded Budget := reader.read

end Budget

namespace Frame

/-- The JSON form. -/
def toJson (f : Frame) : Json :=
  .ofFields [("text", .string f.text), ("budget", .integer f.budget),
    ("remaining", .integer f.remaining), ("complete", .bool f.complete)]

/-- A frame of which some fields have been read. -/
structure Unfinished where
  text : Option Text := none
  budget : Option Nat := none
  remaining : Option Nat := none
  complete : Option Bool := none

/-- How a frame is read. -/
def reader : Json.RecordReader Unfinished Frame where
  name := "Frame"
  start := {}
  fields :=
    [("text", fun f j => return { f with text := some (← j.toText) }),
     ("budget", fun f j => return { f with budget := some (← j.toWord) }),
     ("remaining", fun f j => return { f with remaining := some (← j.toWord) }),
     ("complete", fun f j => return { f with complete := some (← j.toBool) })]
  finish missing f := do
    let text ← Json.required missing "text" f.text
    let budget ← Json.required missing "budget" f.budget
    let remaining ← Json.required missing "remaining" f.remaining
    let complete ← Json.required missing "complete" f.complete
    return ⟨text, budget, remaining, complete⟩

/-- Read the JSON form. -/
def ofJson : Json → Json.Decoded Frame := reader.read

end Frame

namespace Token

/-- The JSON form of a token that is compared by a text. -/
def toJson (t : Token Text) : Json :=
  .ofFields [("normalised", .string t.key), ("original", .string t.original)]

/-- A token of which some fields have been read. -/
structure Unfinished where
  key : Option Text := none
  original : Option Text := none

/-- How a token is read. -/
def reader : Json.RecordReader Unfinished (Token Text) where
  name := "Token"
  start := {}
  fields :=
    [("normalised", fun t j => return { t with key := some (← j.toText) }),
     ("original", fun t j => return { t with original := some (← j.toText) })]
  finish missing t := do
    let key ← Json.required missing "normalised" t.key
    let original ← Json.required missing "original" t.original
    return ⟨key, original⟩

/-- Read the JSON form. -/
def ofJson : Json → Json.Decoded (Token Text) := reader.read

end Token

namespace Change

/-- The JSON form of a change of a token. -/
def toJson : Change (Token Text) → Json
  | kept t => .ofFields [("Kept", t.toJson)]
  | removed t => .ofFields [("Removed", t.toJson)]
  | added t => .ofFields [("Added", t.toJson)]

/-- The names of the kinds of changes, and how their tokens are read. -/
def readers : List (String × (Json → Json.Decoded (Change (Token Text)))) :=
  [("Kept", fun j => return kept (← Token.ofJson j)),
   ("Removed", fun j => return removed (← Token.ofJson j)),
   ("Added", fun j => return added (← Token.ofJson j))]

/-- Read the JSON form. -/
def ofJson : Json → Json.Decoded (Change (Token Text)) := Json.toVariant readers

end Change

end Morphing
