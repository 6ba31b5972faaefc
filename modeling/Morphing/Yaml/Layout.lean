import Morphing.Yaml.Lexeme

/-!
# The layout of a YAML text

A text is cut into lexemes from its beginning to its end. In block style, a collection is open as
long as what comes next does not stand left of it. Nothing in front of a key tells that it is one:
`Layout` remembers where the last thing began that may turn out to be a key, and a colon later puts
the lexemes in front of it.
-/

namespace Morphing.Yaml

/-- Something that may turn out to be a key. -/
structure KeyMark where
  start : Cursor
  /-- The number of lexemes before it. -/
  place : Nat
  /-- Whether nothing but a key can stand here. -/
  required : Bool
deriving DecidableEq, Repr

/-- A key is on one line with its colon, and 1024 bytes before it at most. -/
def KeyMark.isStale (k : KeyMark) (c : Cursor) : Bool :=
  k.start.line < c.line || k.start.offset + 1024 < c.offset

/-- A text that is being cut into lexemes. -/
structure Layout where
  cursor : Cursor
  lexemes : Array Lexeme := #[]
  /-- The columns of the open block collections, the innermost first. -/
  columns : List Nat := []
  /-- What may turn out to be a key, inside the innermost brackets. -/
  key : Option KeyMark := none
  /-- What may turn out to be a key around each pair of open brackets, the innermost first. -/
  outerKeys : List (Option KeyMark) := []
  /-- Whether a key can begin here. -/
  keyAllowed : Bool := true

namespace Layout

/-- Whether there are open brackets. -/
def inFlow (l : Layout) : Bool := !l.outerKeys.isEmpty

/-- The column of the innermost block collection. -/
def indent (l : Layout) : Int := l.columns.head?.elim (-1) fun column => column

/-- Add a lexeme that ends at a place. -/
def put (l : Layout) (x : Lexeme) (c : Cursor) : Layout :=
  { l with lexemes := l.lexemes.push x, cursor := c }

/-- Add a lexeme of one character. -/
def putMark (l : Layout) (x : Lexeme) : Layout := l.put x (l.cursor.skip 1)

/-- Move to what comes next. Tabs are passed over where no key can begin. -/
def gap : (fuel : Nat) → Layout → Layout
  | 0, l => l
  | fuel + 1, l =>
    let c := l.cursor
    let c := if c.column == 0 && c.sees (Char.ofNat 0xFEFF) then c.skip 1 else c
    let c := (c.take fun c => c == ' ' || (c == '\t' && (l.inFlow || !l.keyAllowed))).2.comment
    match c.break? with
    | some (_, next) => gap fuel { l with cursor := next, keyAllowed := l.keyAllowed || !l.inFlow }
    | none => { l with cursor := c }

/-! ## Keys -/

/-- Forget what can no longer turn out to be a key. -/
def expire? (l : Layout) : Option Layout :=
  let stale (k : KeyMark) := k.isStale l.cursor
  if (l.key :: l.outerKeys).any (·.any fun k => stale k && k.required) then none
  else
    let fresh (k : Option KeyMark) := k.filter fun k => !stale k
    some { l with key := fresh l.key, outerKeys := l.outerKeys.map fresh }

/-- Settle that what was read last is no key. -/
def dropKey? (l : Layout) : Option Layout :=
  if l.key.any KeyMark.required then none else some { l with key := none }

/-- Remember that something begins here that may turn out to be a key. -/
def saveKey? (l : Layout) : Option Layout := do
  if !l.keyAllowed then return l
  else
    let required := !l.inFlow && l.indent == l.cursor.column
    let l ← l.dropKey?
    return { l with key := some ⟨l.cursor, l.lexemes.size, required⟩ }

/-! ## Block collections -/

/-- Open a block collection at a column, unless it is open. Its beginning is put at a place among
the lexemes. -/
def openBlock (l : Layout) (x : Lexeme) (column place : Nat) : Layout :=
  if l.inFlow || column ≤ l.indent then l
  else
    { l with lexemes := l.lexemes.insertIdxIfInBounds place x, columns := column :: l.columns }

/-- Open a block collection here, where a key could begin. -/
def openHere? (l : Layout) (x : Lexeme) : Option Layout :=
  if !l.inFlow && !l.keyAllowed then none
  else some (l.openBlock x l.cursor.column l.lexemes.size)

/-- Close the block collections that stand right of a column. -/
def closeBlocks (l : Layout) (column : Int) : Layout :=
  if l.inFlow then l
  else
    let closed := (l.columns.takeWhile fun (c : Nat) => column < (c : Int)).length
    { l with
      lexemes := l.lexemes ++ Array.replicate closed .blockEnd, columns := l.columns.drop closed }

/-- Close all block collections. -/
def finish? (l : Layout) : Option Layout := do
  let l ← (l.closeBlocks (-1)).dropKey?
  return { l with keyAllowed := false }

/-! ## Lexemes -/

/-- Read a directive. -/
def readDirective? (l : Layout) : Option Layout := do
  let l ← l.finish?
  let (x, c) ← directive? l.cursor
  return l.put x c

/-- Read a line that begins or ends a document. -/
def readMarker? (l : Layout) (x : Lexeme) : Option Layout := do
  let l ← l.finish?
  return l.put x (l.cursor.skip 3)

/-- Read an opening bracket. -/
def readOpening? (l : Layout) (x : Lexeme) : Option Layout := do
  let l ← l.saveKey?
  let l := { l with key := none, outerKeys := l.key :: l.outerKeys, keyAllowed := true }
  return l.putMark x

/-- Read a closing bracket. -/
def readClosing? (l : Layout) (x : Lexeme) : Option Layout := do
  let l ← l.dropKey?
  let l := { l with
    key := l.outerKeys.head?.join, outerKeys := l.outerKeys.tail, keyAllowed := false }
  return l.putMark x

/-- Read a comma. -/
def readComma? (l : Layout) : Option Layout := do
  let l ← l.dropKey?
  return { l with keyAllowed := true }.putMark .comma

/-- Read the hyphen before an item. -/
def readItem? (l : Layout) : Option Layout := do
  let l ← l.openHere? .blockSequence
  let l ← l.dropKey?
  return { l with keyAllowed := true }.putMark .item

/-- Read the question mark before a key. -/
def readKey? (l : Layout) : Option Layout := do
  let l ← l.openHere? .blockMapping
  let l ← l.dropKey?
  return { l with keyAllowed := !l.inFlow }.putMark .key

/-- Read the colon before a value. It shows that what was read last is a key. -/
def readValue? (l : Layout) : Option Layout :=
  match l.key with
  | some k =>
    let l := { l with lexemes := l.lexemes.insertIdxIfInBounds k.place .key }
    let l := l.openBlock .blockMapping k.start.column k.place
    some ({ l with key := none, keyAllowed := false }.putMark .value)
  | none => do
    let l ← l.openHere? .blockMapping
    return { l with keyAllowed := !l.inFlow }.putMark .value

/-- Read something that may turn out to be a key. -/
def readContent? (l : Layout) (read : Cursor → Option (Lexeme × Cursor)) : Option Layout := do
  let l ← l.saveKey?
  let (x, c) ← read l.cursor
  return { l with keyAllowed := false }.put x c

/-- Read a plain scalar. A key can begin behind it if it ends on another line. -/
def readPlain? (l : Layout) : Option Layout := do
  let l ← l.saveKey?
  let r ← plain? l.inFlow l.indent l.cursor
  return { l with keyAllowed := r.broken }.put (.scalar r.text true) r.cursor

/-- Read a block of lines. -/
def readBlock? (l : Layout) (folded : Bool) : Option Layout := do
  let l ← l.dropKey?
  let r ← block? folded l.indent l.cursor
  return { l with keyAllowed := true }.put (.scalar r.text false) r.cursor

/-- Read a scalar in quotes. -/
def readQuoted? (l : Layout) (quote : Char) : Option Layout :=
  l.readContent? fun c => (quoted? quote c).map fun r => (.scalar r.text false, r.cursor)

/-- Read the lexeme that starts here. -/
def read? (l : Layout) : Option Layout :=
  let c := l.cursor
  let isMark (mark : Char) := c.atIndicator mark || (l.inFlow && c.sees mark)
  if c.column == 0 && c.sees '%' then l.readDirective?
  else if c.atBeginning then l.readMarker? .documentStart
  else if c.atEnding then l.readMarker? .documentEnd
  else if c.sees '[' then l.readOpening? .openSequence
  else if c.sees '\x7b' then l.readOpening? .openMapping
  else if c.sees ']' then l.readClosing? .closeSequence
  else if c.sees '\x7d' then l.readClosing? .closeMapping
  else if c.sees ',' then l.readComma?
  else if c.atIndicator '-' then l.readItem?
  else if isMark '?' then l.readKey?
  else if isMark ':' then l.readValue?
  else if c.sees '*' then
    l.readContent? fun c => (name? (c.skip 1)).map fun (name, c) => (.alias name, c)
  else if c.sees '&' then
    l.readContent? fun c => (name? (c.skip 1)).map fun (name, c) => (.anchor name, c)
  else if c.sees '!' then l.readContent? (tag? l.inFlow)
  else if c.sees '|' && !l.inFlow then l.readBlock? false
  else if c.sees '>' && !l.inFlow then l.readBlock? true
  else if c.sees '\'' then l.readQuoted? '\''
  else if c.sees '"' then l.readQuoted? '"'
  else if startsPlain l.inFlow c.rest then l.readPlain?
  else none

/-- Read on to the end of the text. -/
def readAll? : (fuel : Nat) → Layout → Option Layout
  | 0, _ => none
  | fuel + 1, l => do
    let l ← (l.gap (l.cursor.rest.length + 1)).expire?
    let l := l.closeBlocks l.cursor.column
    if l.cursor.rest.isEmpty then l.finish? else readAll? fuel (← l.read?)

end Layout

/-- Cut a text into its lexemes. -/
def lexemes? (t : Text) : Option (List Lexeme) :=
  if !t.all isAllowed then none
  else (Layout.readAll? (t.length + 1) { cursor := .start t }).map (·.lexemes.toList)

end Morphing.Yaml
