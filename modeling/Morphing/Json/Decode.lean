import Morphing.Budget
import Morphing.Json.Basic

/-!
# Decoding JSON

How values of the library are read from JSON. A variant is a string, or an object with the name of
the variant as its only key. A record is an object, whose members are read in the order of their
keys and whose unknown members are ignored, or an array of its fields in their order.
-/

namespace Morphing

/-- Why a JSON value cannot be decoded. -/
inductive DecodeError where
  | missingField (name : String)
  | unknownVariant (found : Text) (expected : List String)
  | invalidType (found expected : String)
  | invalidValue (found expected : String)
  | invalidLength (length : Nat) (expected : String)
deriving DecidableEq, Repr

namespace DecodeError

/-- A name between grave accents. -/
def accented (name : String) : String := "`" ++ name ++ "`"

/-- A choice of names in words. -/
def oneOf : List String → String
  | [] => "nothing"
  | [a] => accented a
  | [a, b] => accented a ++ " or " ++ accented b
  | names => "one of " ++ ", ".intercalate (names.map accented)

/-- The error in words. -/
def message : DecodeError → String
  | missingField name => "missing field " ++ accented name
  | unknownVariant found expected =>
    "unknown variant " ++ accented (String.ofList found) ++ ", expected " ++ oneOf expected
  | invalidType found expected => "invalid type: " ++ found ++ ", expected " ++ expected
  | invalidValue found expected => "invalid value: " ++ found ++ ", expected " ++ expected
  | invalidLength length expected => s!"invalid length {length}, expected " ++ expected

end DecodeError

namespace Json

/-- What decoding results in. -/
abbrev Decoded (α : Type) := Except DecodeError α

/-- Read a number that fits a machine word. -/
def toWord : Json → Decoded Nat
  | integer n =>
    if n < 0 then .error (.invalidValue (describe (integer n)) "usize")
    else if n ≤ maxWord then .ok n.toNat
    else .error (.invalidType (describe (integer n)) "usize")
  | other => .error (.invalidType other.describe "usize")

/-- Read a text. -/
def toText : Json → Decoded Text
  | string s => .ok s
  | other => .error (.invalidType other.describe "a string")

/-- Read a truth value. -/
def toBool : Json → Decoded Bool
  | bool b => .ok b
  | other => .error (.invalidType other.describe "a boolean")

/-- Read nothing. -/
def toUnit : Json → Decoded Unit
  | null => .ok ()
  | other => .error (.invalidType other.describe "unit")

/-- Find the variant with the given name. -/
def findVariant (variants : List (String × α)) (name : Text) : Decoded α :=
  match variants.find? fun v => v.1.toList == name with
  | some v => .ok v.2
  | none => .error (.unknownVariant name (variants.map Prod.fst))

/-- Read a variant: its name, and its content if it has any. -/
def variant (variants : List (String × α)) : Json → Decoded (α × Option Json)
  | string name => return (← findVariant variants name, none)
  | object fields =>
    match members fields with
    | [(name, content)] => return (← findVariant variants name, some content)
    | _ => .error (.invalidValue "map" "map with a single key")
  | other => .error (.invalidType other.describe "string or map")

/-- Read a variant that has no content. -/
def toPlainVariant (variants : List (String × α)) (j : Json) : Decoded α := do
  match ← variant variants j with
  | (a, none) => return a
  | (a, some content) => toUnit content; return a

/-- Read a variant that has content. -/
def toVariant (variants : List (String × (Json → Decoded α))) (j : Json) : Decoded α := do
  match ← variant variants j with
  | (_, none) => .error (.invalidType "unit variant" "newtype variant")
  | (read, some content) => read content

/-- How a record is read: `fields` put what they find into an unfinished record of type `ρ`, and
`finish` completes it, where `missing` is the error for a field that was not found. -/
structure RecordReader (ρ α : Type) where
  name : String
  start : ρ
  fields : List (String × (ρ → Json → Decoded ρ))
  finish : (missing : String → DecodeError) → ρ → Decoded α

namespace RecordReader

/-- Read one member of an object. -/
def readMember (r : RecordReader ρ α) (record : ρ) (member : Text × Json) : Decoded ρ :=
  match r.fields.find? fun field => field.1.toList == member.1 with
  | some field => field.2 record member.2
  | none => .ok record

/-- Read fields in their order, as long as there are items for them. -/
def readItems : List (String × (ρ → Json → Decoded ρ)) → List Json → ρ → Decoded ρ
  | field :: fields, item :: items, record => do readItems fields items (← field.2 record item)
  | _, _, record => .ok record

/-- Read a record. -/
def read (r : RecordReader ρ α) : Json → Decoded α
  | object fields => do
    let record ← (members fields).foldlM r.readMember r.start
    r.finish .missingField record
  | array items => do
    let record ← readItems r.fields items r.start
    let expected := s!"struct {r.name} with {r.fields.length} elements"
    let value ← r.finish (fun _ => .invalidLength items.length expected) record
    if r.fields.length < items.length then
      .error (.invalidLength items.length "fewer elements in array")
    else return value
  | other => .error (.invalidType other.describe s!"struct {r.name}")

end RecordReader

/-- The content of a field that has to be there. -/
def required (missing : String → DecodeError) (name : String) : Option α → Decoded α
  | some a => .ok a
  | none => .error (missing name)

end Json

end Morphing
