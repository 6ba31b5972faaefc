import Morphing.Yaml.Layout

/-!
# YAML documents

A document is a tree of scalars, sequences and mappings. A name given to a node (`&name`) can stand
for it later (`*name`), also inside the node itself: the tree has numbers for names, and `find?`
looks up what a number stands for.

The functions of this module read from a `Source`. Every one of them either uses up a lexeme or
leaves the rest to another that does, which bounds the recursion.
-/

namespace Morphing.Yaml

/-- A node of a document. Scalars know whether they are plain and which tag they have. -/
inductive Node where
  | scalar (text : Text) (plain : Bool) (tag : Option Octets)
  | sequence (items : List Node)
  | mapping (entries : List (Node × Node))
  /-- A node that has a name. -/
  | named (number : Nat) (node : Node)
  | alias (number : Nat)
deriving Repr, Inhabited

namespace Node

/-- A scalar without text. -/
def empty : Node := .scalar [] true none

mutual

/-- The node that has a number. Several can have the same one: the last to begin is meant. -/
def find? (number : Nat) : Node → Option Node
  | .named n node => (find? number node).or (if n = number then some node else none)
  | .sequence items => findInItems? number items
  | .mapping entries => findInEntries? number entries
  | _ => none

/-- The node among the items of a sequence that has a number. -/
def findInItems? (number : Nat) : List Node → Option Node
  | [] => none
  | item :: items => (findInItems? number items).or (find? number item)

/-- The node among the entries of a mapping that has a number. -/
def findInEntries? (number : Nat) : List (Node × Node) → Option Node
  | [] => none
  | (key, value) :: entries =>
    (findInEntries? number entries).or ((find? number value).or (find? number key))

end

/-- What a node of a document is, without its name, or what it stands for. -/
def content (document : Node) : Node → Node
  | .named _ node => node
  | .alias number => (document.find? number).getD .empty
  | node => node

end Node

/-! ## Properties of nodes -/

/-- What is left to read, the numbers of the names so far, and what tag handles stand for. -/
structure Source where
  rest : List Lexeme
  names : List (Text × Nat) := []
  handles : List (Text × Octets) := []

namespace Source

/-- Move on. -/
def moveTo (s : Source) (rest : List Lexeme) : Source := { s with rest }

/-- Whether one of some lexemes comes next. -/
def isAt (s : Source) (xs : List Lexeme) : Bool := s.rest.head?.any fun x => xs.contains x

/-- What a tag handle stands for. -/
def expansion? (s : Source) (handle : Text) : Option Octets :=
  if handle.isEmpty then some []
  else
    (s.handles.lookup handle).or <|
      match String.ofList handle with
      | "!" => some (octetsOf ['!'])
      | "!!" => some (octetsOf "tag:yaml.org,2002:".toList)
      | _ => none

/-- Read a name, if there is one. -/
def anchor (s : Source) : Option Text × Source :=
  match s.rest with
  | .anchor name :: rest => (some name, s.moveTo rest)
  | _ => (none, s)

/-- Read a tag, if there is one. -/
def tag? (s : Source) : Option (Option Octets × Source) :=
  match s.rest with
  | .tag handle suffix :: rest => do
    return (some ((← s.expansion? handle) ++ suffix), s.moveTo rest)
  | _ => some (none, s)

/-- Read the comma between two items in brackets. The last item can have one too. -/
def separated? (s : Source) (closing : Lexeme) : Option Source :=
  if s.isAt [closing] then some s
  else if s.isAt [.comma] then some (s.moveTo s.rest.tail)
  else none

/-- Read a name and a tag, in either order. -/
def properties? (s : Source) : Option (Option Text × Option Octets × Source) := do
  let (early, s) := s.anchor
  let (tag, s) ← s.tag?
  let (late, s) := if early.isNone then s.anchor else (none, s)
  return (early.or late, tag, s)

/-- Give a name its number: that of the different names so far. A name that is used again gets a
new one, which a later name may share. -/
def register (s : Source) (name : Text) : Nat × Source :=
  let number := s.names.length
  (number, { s with names := (name, number) :: s.names.filter (·.1 ≠ name) })

end Source

/-! ## Nodes -/

/-- Where a node stands: in brackets, by itself or as an item of a block sequence, or in an entry of
a block mapping. In the last case the items of a sequence need not stand further right. -/
inductive Place where
  | flow
  | item
  | entry
deriving DecidableEq

mutual

/-- Read a node. -/
def Source.node? : (fuel : Nat) → Place → Source → Option (Node × Source)
  | 0, _, _ => none
  | fuel + 1, place, s =>
    match s.rest with
    | .alias name :: rest => do return (.alias (← s.names.lookup name), s.moveTo rest)
    | _ => do
      let (name, tag, s) ← s.properties?
      match name with
      | none => s.content? fuel place false tag
      | some name =>
        let (number, s) := s.register name
        let (node, s) ← s.content? fuel place true tag
        return (.named number node, s)

/-- Read a node without its properties. It can be missing if it has any. -/
def Source.content? : (fuel : Nat) → Place → Source → (named : Bool) → (tag : Option Octets) →
    Option (Node × Source)
  | 0, _, _, _, _ => none
  | fuel + 1, place, s, named, tag =>
    match s.rest, place with
    | .scalar text plain :: rest, _ => some (.scalar text plain tag, s.moveTo rest)
    | .openSequence :: rest, _ => do
      let (items, s) ← (s.moveTo rest).flowItems? fuel true
      return (.sequence items, s)
    | .openMapping :: rest, _ => do
      let (entries, s) ← (s.moveTo rest).flowEntries? fuel true
      return (.mapping entries, s)
    | .item :: _, .entry => do
      let (items, s) ← s.blockItems? fuel true
      return (.sequence items, s)
    | .blockSequence :: rest, .item | .blockSequence :: rest, .entry => do
      let (items, s) ← (s.moveTo rest).blockItems? fuel false
      return (.sequence items, s)
    | .blockMapping :: rest, .item | .blockMapping :: rest, .entry => do
      let (entries, s) ← (s.moveTo rest).blockEntries? fuel
      return (.mapping entries, s)
    | _, _ => if named || tag.isSome then some (.scalar [] true tag, s) else none

/-- Read a node that is empty if one of some lexemes comes next. -/
def Source.part? : (fuel : Nat) → Place → Source → (ends : List Lexeme) → Option (Node × Source)
  | 0, _, _, _ => none
  | fuel + 1, place, s, ends => if s.isAt ends then some (.empty, s) else s.node? fuel place

/-- Read the items of a block sequence. If it is indentless, it has no end of its own. -/
def Source.blockItems? : (fuel : Nat) → Source → (indentless : Bool) → Option (List Node × Source)
  | 0, _, _ => none
  | fuel + 1, s, indentless =>
    match s.rest with
    | .item :: rest => do
      let ends := if indentless then [.item, .key, .value, .blockEnd] else [.item, .blockEnd]
      let (item, s) ← (s.moveTo rest).part? fuel .item ends
      let (items, s) ← s.blockItems? fuel indentless
      return (item :: items, s)
    | rest =>
      if indentless then some ([], s)
      else if rest.head? = some .blockEnd then some ([], s.moveTo rest.tail)
      else none

/-- Read the entries of a block mapping. -/
def Source.blockEntries? : (fuel : Nat) → Source → Option (List (Node × Node) × Source)
  | 0, _ => none
  | fuel + 1, s =>
    match s.rest with
    | .key :: rest => do
      let ends := [.key, .value, .blockEnd]
      let (key, s) ← (s.moveTo rest).part? fuel .entry ends
      let (value, s) ←
        match s.rest with
        | .value :: rest => (s.moveTo rest).part? fuel .entry ends
        | _ => pure (.empty, s)
      let (entries, s) ← s.blockEntries? fuel
      return ((key, value) :: entries, s)
    | .blockEnd :: rest => some ([], s.moveTo rest)
    | _ => none

/-- Read the value of an entry in brackets, if there is one. -/
def Source.flowValue? : (fuel : Nat) → Source → (closing : Lexeme) → Option (Node × Source)
  | 0, _, _ => none
  | fuel + 1, s, closing =>
    match s.rest with
    | .value :: rest => (s.moveTo rest).part? fuel .flow [.comma, closing]
    | _ => some (.empty, s)

/-- Read the items of a sequence in brackets, and its end. An item with a key is a mapping with one
entry. If its key is missing, the lexeme in that place is passed over. -/
def Source.flowItems? : (fuel : Nat) → Source → (first : Bool) → Option (List Node × Source)
  | 0, _, _ => none
  | fuel + 1, s, first => do
    let s ← if first then some s else s.separated? .closeSequence
    match s.rest with
    | .closeSequence :: rest => return ([], s.moveTo rest)
    | .key :: rest =>
      let s := s.moveTo rest
      let (key, s) ←
        if s.isAt [.value, .comma, .closeSequence] then pure (.empty, s.moveTo s.rest.tail)
        else s.node? fuel .flow
      let (value, s) ← s.flowValue? fuel .closeSequence
      let (items, s) ← s.flowItems? fuel false
      return (.mapping [(key, value)] :: items, s)
    | _ =>
      let (item, s) ← s.node? fuel .flow
      let (items, s) ← s.flowItems? fuel false
      return (item :: items, s)

/-- Read the entries of a mapping in brackets, and its end. -/
def Source.flowEntries? : (fuel : Nat) → Source → (first : Bool) →
    Option (List (Node × Node) × Source)
  | 0, _, _ => none
  | fuel + 1, s, first => do
    let s ← if first then some s else s.separated? .closeMapping
    match s.rest with
    | .closeMapping :: rest => return ([], s.moveTo rest)
    | .key :: rest =>
      let (key, s) ← (s.moveTo rest).part? fuel .flow [.value, .comma, .closeMapping]
      let (value, s) ← s.flowValue? fuel .closeMapping
      let (entries, s) ← s.flowEntries? fuel false
      return ((key, value) :: entries, s)
    | _ =>
      let (key, s) ← s.node? fuel .flow
      let (entries, s) ← s.flowEntries? fuel false
      return ((key, .empty) :: entries, s)

end

/-! ## Documents -/

/-- Whether a lexeme is a directive. -/
def Lexeme.isDirective : Lexeme → Bool
  | .version .. | .handle .. => true
  | _ => false

/-- What the tag handles stand for according to directives. There is one version at most, and each
handle is given once. -/
def handles? (directives : List Lexeme) : Option (List (Text × Octets)) :=
  let versions := directives.filterMap fun
    | .version major minor => some (major, minor)
    | _ => none
  let handles := directives.filterMap fun
    | .handle name expansion => some (name, expansion)
    | _ => none
  if versions.length ≤ 1 ∧ versions.all [(1, 1), (1, 2)].contains ∧
    (handles.map Prod.fst).Nodup then some handles
  else none

/-- Read a document. -/
def Source.document? (s : Source) : Option (Node × Source) := do
  let (directives, rest) := s.rest.span Lexeme.isDirective
  let s := { s with rest, handles := ← handles? directives }
  let fuel := 4 * s.rest.length + 4
  match rest with
  | .documentStart :: rest =>
    let s := s.moveTo rest
    if rest.head?.all fun x => x.isDirective || x == .documentStart || x == .documentEnd then
      return (.empty, s)
    else s.node? fuel .item
  | _ => if directives.isEmpty then s.node? fuel .item else none

/-- Read a text that holds one document, or none at all. -/
def parse? (t : Text) : Option (Option Node) := do
  let xs ← lexemes? t
  if xs.isEmpty then return none
  else
    let (n, s) ← Source.document? { rest := xs }
    if s.rest.all (· == .documentEnd) then return some n else none

end Morphing.Yaml
