import Morphing.Decimal.Shortest
import Morphing.Text.Quoted

/-!
# JSON values

A number that is written without fraction and exponent and fits 64 bits, with or without a sign, is
an integer. Every other number is a decimal.

The members of an object are looked at in the order of their keys, whatever order they are written
in, and of members with the same key the last one counts.
-/

namespace Morphing

/-- A JSON value. -/
inductive Json where
  | null
  | bool (b : Bool)
  | integer (n : Int)
  | decimal (d : Decimal)
  | string (s : Text)
  | array (items : List Json)
  | object (fields : List (Text × Json))
deriving Repr, BEq, Inhabited

namespace Json

/-- Put a member in its place among members that are ordered by key. -/
def insertMember (key : Text) (value : Json) : List (Text × Json) → List (Text × Json)
  | [] => [(key, value)]
  | (k, v) :: rest =>
    if key = k then (key, value) :: rest
    else if key < k then (key, value) :: (k, v) :: rest
    else (k, v) :: insertMember key value rest

/-- The members of an object, ordered by key. -/
def members (fields : List (Text × Json)) : List (Text × Json) :=
  fields.foldl (fun members (key, value) => insertMember key value members) []

/-- The value of a member of an object, if it is there. -/
def get? : Json → String → Option Json
  | object fields, key => (members fields).lookup key.toList
  | _, _ => none

/-- A string value. -/
def ofString (s : String) : Json := .string s.toList

/-- An object with the given members. -/
def ofFields (fields : List (String × Json)) : Json :=
  .object (fields.map fun (key, value) => (key.toList, value))

/-- What kind of value this is, in words. -/
def describe : Json → String
  | null => "null"
  | bool b => s!"boolean `{b}`"
  | integer n => s!"integer `{n}`"
  | decimal d => "floating point `" ++ String.ofList d.render ++ "`"
  | string s => "string " ++ String.ofList (Text.quoted s)
  | array _ => "sequence"
  | object _ => "map"

end Json

end Morphing
