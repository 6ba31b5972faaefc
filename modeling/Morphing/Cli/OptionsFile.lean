import Morphing.Json.Codec
import Morphing.Yaml.Node

/-!
# Options files

Options can be kept in a YAML file: a mapping with the fields that differ from the defaults. A file
without content leaves all defaults. Fields that options do not have are ignored, but no field may
be given twice.
-/

namespace Morphing

namespace Yaml

/-- The name in a local tag, which begins with an exclamation mark. If nothing follows, the mark is
the name. -/
def localName? (tag : Octets) : Option String := do
  let text ← String.fromUTF8? ⟨tag.toArray⟩
  match text.toList with
  | ['!'] => some text
  | '!' :: name => some (String.ofList name)
  | _ => none

/-- Whether the text of a plain scalar stands for nothing. -/
def isNull (t : Text) : Bool := ["", "~", "null", "Null", "NULL"].contains (String.ofList t)

/-- The variant that a node names. A local tag can take the place of the text. -/
def Node.variant? (variants : List (String × α)) : Node → Option α
  | .scalar text plain tag =>
    match tag.bind localName? with
    | none => variants.lookup (String.ofList text)
    | some name => if plain && isNull text then variants.lookup name else none
  | _ => none

end Yaml

namespace Options

/-- Fields of options, as far as they have been found. -/
structure Found where
  linePairing : Option LinePairing := none
  unpairedTokens : Option UnpairedTokens := none

/-- The options with the found fields. -/
def Found.toOptions (f : Found) : Options :=
  ⟨f.linePairing.getD .stack, f.unpairedTokens.getD .separator⟩

/-- Read how lines are paired. -/
def Found.readLinePairing (f : Found) (n : Yaml.Node) : Option Found :=
  if f.linePairing.isSome then none
  else return { f with linePairing := some (← n.variant? LinePairing.names) }

/-- Read what becomes of unpaired words. -/
def Found.readUnpairedTokens (f : Found) (n : Yaml.Node) : Option Found :=
  if f.unpairedTokens.isSome then none
  else return { f with unpairedTokens := some (← n.variant? UnpairedTokens.names) }

/-- Read the entry of a field. -/
def Found.readEntry (f : Found) : Yaml.Node × Yaml.Node → Option Found
  | (.scalar name _ _, value) =>
    match String.ofList name with
    | "line_pairing" => f.readLinePairing value
    | "unpaired_tokens" => f.readUnpairedTokens value
    | _ => some f
  | _ => none

/-- The options that a YAML document holds. -/
def ofNode? (document : Yaml.Node) : Option Options :=
  match document.content document with
  | .mapping entries => do
    let entries := entries.map fun (key, value) => (document.content key, document.content value)
    return (← entries.foldlM Found.readEntry {}).toOptions
  | .scalar [] true _ => some {}
  | _ => none

/-- The options that a YAML text holds. -/
def ofYaml? (t : Text) : Option Options := do
  match ← Yaml.parse? t with
  | none => return {}
  | some n => ofNode? n

/-- Options in the words of the log. -/
def describe (o : Options) : String :=
  let linePairing := match o.linePairing with
    | .stack => "Stack"
    | .adjacent => "Adjacent"
  let unpairedTokens := match o.unpairedTokens with
    | .separator => "Separator"
    | .reconcile => "Reconcile"
  "MorphOptions \x7b line_pairing: " ++ linePairing ++ ", unpaired_tokens: " ++ unpairedTokens ++
    " \x7d"

end Options

end Morphing
