import Morphing.Cli.ValuePattern
import Morphing.Event
import Morphing.Text.Alphanumeric
import Morphing.Text.Bytes

/-!
# Log filters

A filter says which log records are shown. It is a list of directives, each with the most detailed
level that it shows. A directive applies to the targets that begin with its own, and if it names a
field only to records that have the field. Of several that apply the most particular one counts.

In writing, directives are separated by commas. `LEVEL` is for every target, `TARGET` shows
everything of a target and `TARGET=LEVEL` no more than the level. A field stands in braces inside
square brackets, `TARGET[{FIELD}]=LEVEL`. Directives for spans, `TARGET[SPAN]=LEVEL`, and for fields
with a value, `TARGET[{FIELD=VALUE}]=LEVEL`, are read, but apply to no record, as the log knows
neither.
-/

namespace Morphing.Cli

/-- The most detailed level shown for the targets that begin with `target` and the records that have
`field`: the rank of a level, or zero if none is shown. -/
structure Directive where
  target : Option Text := none
  field : Option Text := none
  rank : Nat := Level.trace.rank
deriving DecidableEq, Repr

/-- Which log records are shown. -/
structure LogFilter where
  directives : List Directive
deriving DecidableEq, Repr

namespace Directive

/-- A text in lower case, as far as it is ASCII. -/
def lowerCase (t : Text) : String := String.ofList (t.map Char.toLower)

/-- The rank of a level that is given by its name, in any case, or as a number. -/
def rank? (t : Text) : Option Nat :=
  match Text.number? t with
  | some n => if n ≤ Level.trace.rank then some n else none
  | none =>
    match lowerCase t with
    | "off" => some 0
    | "error" => some Level.error.rank
    | "warn" => some Level.warn.rank
    | "info" => some Level.info.rank
    | "debug" => some Level.debug.rank
    | "trace" => some Level.trace.rank
    | _ => none

/-- The rank after an equals sign, where no level at all means every level. -/
def givenRank? (t : Text) : Option Nat := if t.isEmpty then some Level.trace.rank else rank? t

/-- Whether a target can begin with a character. -/
def isTargetStart (c : Char) : Bool :=
  c == '-' || c == ':' || c == '_' || Text.isAlphanumeric c

/-- A text without the blanks around it. -/
def trimmed (t : Text) : Text :=
  ((t.dropWhile Text.isBlank).reverse.dropWhile Text.isBlank).reverse

/-- Read a required field: its name, and whether it has to have a value. -/
def field? (t : Text) : Option (Text × Bool) :=
  match t.splitOn '=' with
  | [] => none
  | [name] => if name.isEmpty then none else some (name, false)
  | name :: value :: _ => if ValuePattern.isValid value then some (name, true) else none

/-- Read what follows a span at the given offset: nothing, or an equals sign and a level. -/
def afterSpan? (whole : Text) (offset : Nat) : Text → Option Nat
  | [] => some Level.trace.rank
  | '=' :: _ => do givenRank? (← Text.dropBytes? whole (offset + 1))
  | _ => none

/-- Read a span, after its opening bracket at the given offset. -/
def span? (whole : Text) (target : Option Text) (start : Nat) (t : Text) :
    Option (Option Directive) :=
  let name := t.takeWhile fun c => c != ']' && c != '\x7b'
  let stop := start + Text.byteLength name
  match t.drop name.length with
  | [] => none
  | ']' :: rest => do
    let _ ← Text.slice? whole start stop
    let _ ← afterSpan? whole (stop + 1) rest
    return none
  | _ :: rest => do
    let name ← Text.slice? whole start stop
    let start := stop + 1
    let field := rest.takeWhile (· != '\x7d')
    let stop := start + Text.byteLength field
    match rest.drop field.length with
    | _ :: ']' :: rest =>
      let (field, hasValue) ← field? (← Text.slice? whole start stop)
      let rank ← afterSpan? whole (stop + 2) rest
      return if name.isEmpty && !hasValue then some { target, field := some field, rank } else none
    | _ => none

/-- Read a directive. One that applies to no record is read, but not kept. The form of a directive
is that of the text without the blanks around it, but its parts are cut from the whole text at the
offsets that they would have without the blanks. -/
def parse? (t : Text) : Option (Option Directive) :=
  match trimmed t with
  | [] => none
  | '[' :: rest => span? t none 1 rest
  | c :: rest =>
    if !isTargetStart c then none
    else
      let form := c :: rest
      let name := form.takeWhile fun c => c != '=' && c != '['
      let stop := Text.byteLength name
      match form.drop name.length with
      | [] =>
        match rank? t with
        | some rank => some (some { rank })
        | none => some (some { target := some t })
      | '=' :: _ => do
        let target ← Text.slice? t 0 stop
        let rank ← givenRank? (← Text.dropBytes? t (stop + 1))
        return some { target := some target, rank }
      | _ :: rest => do span? t (some (← Text.slice? t 0 stop)) (stop + 1) rest

/-- The fields that every record has, in the order of their names. -/
def recordFields : List String :=
  ["log.file", "log.line", "log.module_path", "log.target", "message"]

/-- Whether a directive applies to the records of a target. -/
def appliesTo (d : Directive) (target : Text) : Bool :=
  d.target.all (·.isPrefixOf target) &&
    d.field.all fun field => recordFields.contains (String.ofList field)

/-- How particular a directive is: first its target counts, then its field. -/
def particularity (d : Directive) : Nat × Nat :=
  (match d.target with
    | some target => target.length + 1
    | none => 0,
   match d.field with
    | some field => recordFields.idxOf (String.ofList field) + 1
    | none => 0)

/-- Whether a directive is at most as particular as another. -/
def yieldsTo (d e : Directive) : Bool :=
  let (a, b) := d.particularity
  let (a', b') := e.particularity
  a < a' || (a == a' && b ≤ b')

end Directive

namespace LogFilter

/-- What stands between the commas of a text, as far as there is anything. -/
def pieces (t : Text) : List Text := (t.splitOn ',').filter fun piece => !piece.isEmpty

/-- Read a filter. One without directives shows nothing. -/
def parse? (t : Text) : Option LogFilter :=
  (pieces t).mapM Directive.parse? |>.map fun directives => ⟨directives.filterMap id⟩

/-- The more particular of two directives, and of equals the later one. -/
def choose (found : Option Directive) (d : Directive) : Option Directive :=
  match found with
  | none => some d
  | some best => if best.yieldsTo d then some d else some best

/-- The directive that counts for a target. -/
def directiveFor? (f : LogFilter) (target : Text) : Option Directive :=
  (f.directives.filter fun d => d.appliesTo target).foldl choose none

/-- Whether records of a target and level are shown. -/
def shows (f : LogFilter) (target : Text) (level : Level) : Bool :=
  match f.directiveFor? target with
  | some d => level.rank ≤ d.rank
  | none => false

end LogFilter

end Morphing.Cli
