import Morphing.Json.Basic

/-!
# Writing JSON

The compact form of a value: no blanks, and no escapes but those that JSON demands.
-/

namespace Morphing.Json

/-- How one character is written in a string. -/
def escapeChar (c : Char) : Text :=
  if c = '"' then ['\\', '"']
  else if c = '\\' then ['\\', '\\']
  else if c.toNat < 0x20 then
    let digits := Text.hexadecimal c.toNat
    ['\\', 'u'] ++ List.replicate (4 - digits.length) '0' ++ digits
  else [c]

/-- A string in writing. -/
def renderString (s : Text) : Text := '"' :: s.flatMap escapeChar ++ ['"']

mutual

/-- A value in writing. -/
def render : Json → Text
  | null => "null".toList
  | bool b => if b then "true".toList else "false".toList
  | integer n => (toString n).toList
  | decimal d => d.render
  | string s => renderString s
  | array items => '[' :: renderItems items ++ [']']
  | object fields => '\x7b' :: renderFields fields ++ ['\x7d']

/-- The items of an array in writing. -/
def renderItems : List Json → Text
  | [] => []
  | [item] => render item
  | item :: items => render item ++ ',' :: renderItems items

/-- The members of an object in writing. -/
def renderFields : List (Text × Json) → Text
  | [] => []
  | [(key, value)] => renderString key ++ ':' :: render value
  | (key, value) :: fields => renderString key ++ ':' :: render value ++ ',' :: renderFields fields

end

end Morphing.Json
