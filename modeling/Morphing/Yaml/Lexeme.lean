import Morphing.Yaml.Scalar

/-!
# Lexemes of YAML

The smallest parts of a YAML text that have a meaning. Where block collections begin and end is a
part of its own, though nothing but the indentation shows it.
-/

namespace Morphing.Yaml

/-- A tag or a part of it in bytes, as its escapes give it. -/
abbrev Octets := List UInt8

/-- A part of a YAML text. -/
inductive Lexeme where
  /-- The version directive. -/
  | version (major minor : Nat)
  /-- The directive that says what a tag handle stands for. -/
  | handle (name : Text) (expansion : Octets)
  | documentStart
  | documentEnd
  | blockSequence
  | blockMapping
  | blockEnd
  | openSequence
  | closeSequence
  | openMapping
  | closeMapping
  /-- The hyphen before an item. -/
  | item
  /-- The comma between items. -/
  | comma
  /-- The beginning of a key, whether a question mark shows it or not. -/
  | key
  /-- The colon before a value. -/
  | value
  | alias (name : Text)
  | anchor (name : Text)
  | tag (handle : Text) (suffix : Octets)
  | scalar (text : Text) (plain : Bool)
deriving DecidableEq, Repr

/-! ## Names and tags -/

/-- Read the name of an alias or an anchor, after its indicator. -/
def name? (c : Cursor) : Option (Text × Cursor) :=
  let (name, next) := c.take isNameChar
  let ended := atGap next.rest || next.rest.head?.any fun c =>
    c == '?' || c == ':' || c == ',' || c == ']' || c == '}' || c == '%' || c == '@' ||
      c.toNat == 0x60
  if name.isEmpty || !ended then none else some (name, next)

/-- Read a tag handle: an exclamation mark and letters, which a second mark may end. -/
def handle? (c : Cursor) : Option (Text × Cursor) :=
  if !c.sees '!' then none
  else
    let (name, next) := (c.skip 1).take isNameChar
    if next.sees '!' then some ('!' :: name ++ ['!'], next.skip 1) else some ('!' :: name, next)

/-- The number of bytes that encode a character, judging from the first one. -/
def sequenceLength? (lead : Nat) : Option Nat :=
  if lead < 0x80 then some 1
  else if 0xC0 ≤ lead ∧ lead < 0xE0 then some 2
  else if 0xE0 ≤ lead ∧ lead < 0xF0 then some 3
  else if 0xF0 ≤ lead ∧ lead < 0xF8 then some 4
  else none

/-- Read bytes that continue a character, each written as a percent sign and two digits. -/
def trailingOctets? : (count : Nat) → Cursor → Option (Octets × Cursor)
  | 0, c => some ([], c)
  | count + 1, c =>
    match c.rest with
    | '%' :: a :: b :: _ => do
      let octet ← ofHexadecimal? [a, b]
      if octet < 0x80 ∨ 0xC0 ≤ octet then none
      else
        let (octets, c) ← trailingOctets? count (c.skip 3)
        return (octet.toUInt8 :: octets, c)
    | _ => none

/-- Read the bytes of one character, each written as a percent sign and two digits. -/
def escapedOctets? (c : Cursor) : Option (Octets × Cursor) :=
  match c.rest with
  | '%' :: a :: b :: _ => do
    let lead ← ofHexadecimal? [a, b]
    let length ← sequenceLength? lead
    let (octets, c) ← trailingOctets? (length - 1) (c.skip 3)
    return (lead.toUInt8 :: octets, c)
  | _ => none

/-- Whether a tag can hold a character. Indicators of flow style are only allowed where the tag has
an end of its own. -/
def isTagChar (indicators : Bool) (c : Char) : Bool :=
  isNameChar c || [';', '/', '?', ':', '@', '&', '=', '+', '$', '.', '!', '~', '*', '\'', '(',
    ')'].contains c || (indicators && (c == ',' || c == '[' || c == ']'))

/-- Read on in a tag. The result tells how many characters the tag has. -/
def tagTextWith? (indicators : Bool) : (fuel : Nat) → Cursor → Option (Octets × Nat × Cursor)
  | 0, _ => none
  | fuel + 1, c =>
    match c.rest with
    | [] => some ([], 0, c)
    | char :: _ =>
      if char = '%' then do
        let (octets, c) ← escapedOctets? c
        let (rest, count, c) ← tagTextWith? indicators fuel c
        return (octets ++ rest, count + 1, c)
      else if isTagChar indicators char then do
        let (rest, count, c) ← tagTextWith? indicators fuel (c.skip 1)
        return (char.toNat.toUInt8 :: rest, count + 1, c)
      else some ([], 0, c)

/-- Read the text of a tag, up to a zero byte if it has one. -/
def tagText? (indicators : Bool) (c : Cursor) : Option (Octets × Nat × Cursor) := do
  let (octets, count, c) ← tagTextWith? indicators (c.rest.length + 1) c
  return (octets.takeWhile (· ≠ 0), count, c)

/-- The bytes of a text that is ASCII. -/
def octetsOf (t : Text) : Octets := t.map fun c => c.toNat.toUInt8

/-- Read a tag in full, between angle brackets, after its exclamation mark. -/
def verbatimTag? (c : Cursor) : Option (Lexeme × Cursor) := do
  let (suffix, count, c) ← tagText? true (c.skip 1)
  if count = 0 || !c.sees '>' then none else return (.tag [] suffix, c.skip 1)

/-- Read a tag with a handle, or one without, which then has the handle `!`. The tag `!` itself has
none. -/
def shorthandTag? (c : Cursor) : Option (Lexeme × Cursor) := do
  let (name, next) ← handle? c
  if 1 < name.length ∧ name.getLast? = some '!' then
    let (suffix, count, next) ← tagText? false next
    if count = 0 then none else return (.tag name suffix, next)
  else
    let (suffix, _, next) ← tagText? false next
    let suffix := octetsOf (name.drop 1) ++ suffix
    return (if suffix.isEmpty then .tag [] (octetsOf ['!']) else .tag ['!'] suffix, next)

/-- Read a tag. It is set off from what follows, except from a comma in flow style. -/
def tag? (flow : Bool) (c : Cursor) : Option (Lexeme × Cursor) := do
  let (tag, next) ←
    if (c.skip 1).sees '<' then verbatimTag? (c.skip 1) else shorthandTag? c
  if atGap next.rest || (flow && next.sees ',') then return (tag, next) else none

/-! ## Directives -/

/-- Read a part of a version number, of at most nine digits. -/
def versionNumber? (c : Cursor) : Option (Nat × Cursor) :=
  let (digits, next) := c.take Char.isDigit
  if digits.isEmpty || 9 < digits.length then none
  else some (digits.foldl (fun n c => n * 10 + (c.toNat - 0x30)) 0, next)

/-- Read the version that a directive gives. -/
def version? (c : Cursor) : Option (Lexeme × Cursor) := do
  let (major, c) ← versionNumber? c.spaces
  if !c.sees '.' then none
  else
    let (minor, c) ← versionNumber? (c.skip 1)
    return (.version major minor, c)

/-- Read the tag handle that a directive gives, and what it stands for. -/
def handleDirective? (c : Cursor) : Option (Lexeme × Cursor) := do
  let (name, c) ← handle? c.spaces
  if name ≠ ['!'] ∧ (name.length < 2 ∨ name.getLast? ≠ some '!') then none
  else if !c.rest.head?.any isSpace then none
  else
    let (expansion, count, c) ← tagText? true c.spaces
    if count = 0 || !atGap c.rest then none else return (.handle name expansion, c)

/-- Read a directive, from its percent sign to the end of its line. -/
def directive? (c : Cursor) : Option (Lexeme × Cursor) := do
  let (name, c) := (c.skip 1).take isNameChar
  if !atGap c.rest then none
  else
    let (lexeme, c) ←
      match String.ofList name with
      | "YAML" => version? c
      | "TAG" => handleDirective? c
      | _ => none
    return (lexeme, (← c.lineEnd?).nextLine)

end Morphing.Yaml
