import Morphing.Text.Alphanumeric

/-!
# Patterns for values

A field of a log filter can ask for a value: a number, or a regular expression for the text of the
value. The log has no such values, so a pattern never comes to be matched, but a filter with a
malformed one is no filter. `ValuePattern.isValid` tells the well-formed ones.

Regular expressions know letters by ASCII alone: classes and cases that depend on Unicode are
refused, unless the flag `u` is off. A brace never closes here, as it would end the field, so that
counted repetitions, which need one, are malformed as well.
-/

namespace Morphing.Cli.ValuePattern

/-! ## Numbers -/

/-- Leave out a sign. -/
def unsigned : Text → Text
  | '+' :: t | '-' :: t => t
  | t => t

/-- Whether a text is a whole number in decimal digits. -/
def isDigits (t : Text) : Bool := !t.isEmpty && t.all Char.isDigit

/-- Whether a text is a decimal without sign: digits with a point among them, before or behind. -/
def isDecimal (t : Text) : Bool :=
  let whole := t.takeWhile (· != '.')
  match t.drop whole.length with
  | [] => isDigits whole
  | _ :: fraction => (whole ++ fraction).length != 0 && (whole ++ fraction).all Char.isDigit

/-- Whether a text is a number. -/
def isNumber (t : Text) : Bool :=
  let t := unsigned t
  let mantissa := t.takeWhile fun c => c != 'e' && c != 'E'
  match t.drop mantissa.length with
  | [] =>
    isDecimal mantissa ||
      ["inf", "infinity", "nan"].contains (String.ofList (t.map Char.toLower))
  | _ :: exponent => isDecimal mantissa && isDigits (unsigned exponent)

/-! ## Regular expressions -/

/-- The flags that decide what is well-formed. -/
structure Flags where
  ignoreCase : Bool := false
  unicode : Bool := true
  ignoreBlanks : Bool := false

/-- An item of a regular expression, as far as it decides what is well-formed around it. -/
inductive Item where
  /-- A character on its own. -/
  | literal (c : Char)
  /-- A class of characters. -/
  | group
  /-- A place between characters. -/
  | place

/-- The value of digits to base sixteen. -/
def hexadecimal? (digits : Text) : Option Nat :=
  digits.foldlM (fun n c =>
    if '0' ≤ c ∧ c ≤ '9' then some (n * 16 + (c.toNat - 0x30))
    else if 'a' ≤ c ∧ c ≤ 'f' then some (n * 16 + (c.toNat - 0x61 + 10))
    else if 'A' ≤ c ∧ c ≤ 'F' then some (n * 16 + (c.toNat - 0x41 + 10))
    else none) 0

/-- A character given by its code point in so many digits. -/
def coded? (length : Nat) (t : Text) : Option (Item × Text) := do
  if t.length < length then none
  else
    let code ← hexadecimal? (t.take length)
    if Nat.isValidChar code then some (.literal (Char.ofNat code), t.drop length) else none

/-- A character on its own, which has no case to be ignored. -/
def literal? (flags : Flags) (c : Char) : Option Item :=
  if flags.ignoreCase && flags.unicode then none else some (.literal c)

/-- Read what follows a backslash. -/
def escape? (flags : Flags) : Text → Option (Item × Text)
  | [] => none
  | c :: rest =>
    match c with
    | 'x' => do
      let (item, rest) ← coded? 2 rest
      match item with
      | .literal c =>
        if !flags.unicode && 0x80 ≤ c.toNat then none else return (← literal? flags c, rest)
      | item => return (item, rest)
    | 'u' => if flags.ignoreCase && flags.unicode then none else coded? 4 rest
    | 'U' => if flags.ignoreCase && flags.unicode then none else coded? 8 rest
    | 'd' | 's' | 'w' => if flags.unicode then none else some (.group, rest)
    | 'b' | 'B' | '<' | '>' => if flags.unicode then none else some (.place, rest)
    | 'A' | 'z' => some (.place, rest)
    | 'a' => return (← literal? flags '\x07', rest)
    | 'f' => return (← literal? flags '\x0c', rest)
    | 't' => return (← literal? flags '\t', rest)
    | 'n' => return (← literal? flags '\n', rest)
    | 'r' => return (← literal? flags '\r', rest)
    | 'v' => return (← literal? flags '\x0b', rest)
    | c => if c.toNat < 0x80 && !c.isAlphanum then return (← literal? flags c, rest) else none

/-- The classes that go by an ASCII name. -/
def namedClasses : List String :=
  ["alnum", "alpha", "ascii", "blank", "cntrl", "digit", "graph", "lower", "print", "punct",
    "space", "upper", "word", "xdigit"]

/-- Leave out a class with a name, between colons, with its closing bracket. -/
def namedClass? (t : Text) : Option Text :=
  match t with
  | ':' :: t =>
    let t := match t with
      | '^' :: t => t
      | t => t
    let name := t.takeWhile (· != ':')
    match t.drop name.length with
    | ':' :: ']' :: rest => if namedClasses.contains (String.ofList name) then some rest else none
    | _ => none
  | _ => none

/-- Leave out blanks, if they are to be ignored. -/
def skipBlanks (flags : Flags) (t : Text) : Text :=
  if flags.ignoreBlanks then t.dropWhile Text.isBlank else t

/-- Read the beginning of a class, after its bracket: hyphens and a closing bracket that come first
stand for themselves. -/
def classStart? (flags : Flags) (t : Text) : Option Text :=
  match skipBlanks flags t with
  | '^' :: t => if flags.unicode then some (leading (skipBlanks flags t)) else none
  | t => some (leading t)
where
  /-- Leave out what stands for itself. -/
  leading (t : Text) : Text :=
    let rest := t.dropWhile (· == '-')
    match t, rest with
    | ']' :: t, _ => t
    | _, rest => rest

/-- Read one member of a class. -/
def classItem? (flags : Flags) : Text → Option (Item × Text)
  | [] => none
  | '\\' :: t => do
    let (item, rest) ← escape? flags t
    match item with
    | .place => none
    | item => return (item, rest)
  | c :: rest =>
    if !flags.unicode && 0x80 ≤ c.toNat then none else return (← literal? flags c, rest)

/-- Read one member of a class, or a range of them. -/
def classRange? (flags : Flags) (t : Text) : Option Text := do
  let (first, rest) ← classItem? flags t
  match skipBlanks flags rest with
  | '-' :: rest =>
    match skipBlanks flags rest with
    | ']' :: _ | '-' :: _ => return '-' :: rest
    | rest =>
      let (last, rest) ← classItem? flags rest
      match first, last with
      | .literal a, .literal b => if a ≤ b then some (skipBlanks flags rest) else none
      | _, _ => none
  | rest => return rest

/-- Read a class, after its bracket and with `depth` classes around it. -/
def class? (flags : Flags) : (fuel depth : Nat) → Text → Option Text
  | 0, _, _ => none
  | fuel + 1, depth, t =>
    match skipBlanks flags t with
    | [] => none
    | '[' :: t =>
      match namedClass? t with
      | some rest => class? flags fuel depth rest
      | none => do class? flags fuel (depth + 1) (← classStart? flags t)
    | ']' :: t => if depth = 0 then some t else class? flags fuel (depth - 1) t
    | '&' :: '&' :: t | '-' :: '-' :: t | '~' :: '~' :: t => class? flags fuel depth t
    | t => do class? flags fuel depth (← classRange? flags t)

/-- Set or clear a flag by its letter. -/
def Flags.set? (flags : Flags) (letter : Char) (value : Bool) : Option Flags :=
  match letter with
  | 'i' => some { flags with ignoreCase := value }
  | 'u' => some { flags with unicode := value }
  | 'x' => some { flags with ignoreBlanks := value }
  | 'm' | 's' | 'U' | 'R' => some flags
  | _ => none

/-- Set the flags of a list of letters, of which each stands there at most once. Those after a
hyphen are cleared. -/
def Flags.apply? (flags : Flags) (letters : Text) : Option Flags :=
  let on := letters.takeWhile (· != '-')
  match letters.drop on.length with
  | [] => if on.Nodup then on.foldlM (fun f c => f.set? c true) flags else none
  | _ :: off =>
    if off.isEmpty || !(on ++ off).Nodup then none
    else do
      let flags ← on.foldlM (fun f c => f.set? c true) flags
      off.foldlM (fun f c => f.set? c false) flags

/-- Whether a group can have a name. -/
def isName : Text → Bool
  | [] => false
  | c :: rest =>
    (c == '_' || (Text.isAlphanumeric c && !c.isDigit)) && rest.all fun c =>
      c == '_' || c == '.' || c == '[' || c == ']' || Text.isAlphanumeric c

/-- What a regular expression may go on with: the flags of the groups that are open, the innermost
first, those that hold now, and whether there is anything to be repeated. -/
structure Progress where
  groups : List Flags := []
  flags : Flags := {}
  names : List Text := []
  repeatable : Bool := false

/-- Open a group. -/
def Progress.enter (p : Progress) (inside : Flags) : Progress :=
  { p with groups := p.flags :: p.groups, flags := inside, repeatable := false }

/-- Read the beginning of a group, after its parenthesis. -/
def Progress.openGroup? (p : Progress) : Text → Option (Progress × Text)
  | '?' :: t =>
    let named (t : Text) : Option (Progress × Text) :=
      let name := t.takeWhile (· != '>')
      match t.drop name.length with
      | [] => none
      | _ :: rest =>
        if isName name && !p.names.contains name then
          some ({ p with names := name :: p.names }.enter p.flags, rest)
        else none
    match t with
    | 'P' :: '<' :: t | '<' :: t => named t
    | t =>
      let letters := t.takeWhile fun c => c != ':' && c != ')'
      match t.drop letters.length with
      | ':' :: rest => do
        let inside ← if letters.isEmpty then some p.flags else p.flags.apply? letters
        return (p.enter inside, rest)
      | _ :: rest => do
        if letters.isEmpty then none
        else return ({ p with flags := ← p.flags.apply? letters, repeatable := false }, rest)
      | [] => none
  | t => some (p.enter p.flags, t)

/-- Whether a regular expression can go on with a text and then end. -/
def Progress.accepts (p : Progress) : (fuel : Nat) → Text → Bool
  | 0, _ => false
  | fuel + 1, t =>
    match t with
    | [] => p.groups.isEmpty
    | '(' :: t =>
      match p.openGroup? t with
      | some (p, t) => p.accepts fuel t
      | none => false
    | ')' :: t =>
      match p.groups with
      | [] => false
      | flags :: groups => { p with groups, flags, repeatable := true }.accepts fuel t
    | '|' :: t => { p with repeatable := false }.accepts fuel t
    | '*' :: t | '+' :: t | '?' :: t => p.repeatable && p.accepts fuel t
    | '\x7b' :: _ => false
    | '[' :: t =>
      match (classStart? p.flags t).bind (class? p.flags (t.length + 1) 0) with
      | some t => { p with repeatable := true }.accepts fuel t
      | none => false
    | '\\' :: t =>
      match escape? p.flags t with
      | some (_, t) => { p with repeatable := true }.accepts fuel t
      | none => false
    | '.' :: t => p.flags.unicode && { p with repeatable := true }.accepts fuel t
    | '^' :: t | '$' :: t => { p with repeatable := true }.accepts fuel t
    | c :: t =>
      if p.flags.ignoreBlanks && Text.isBlank c then p.accepts fuel t
      else if p.flags.ignoreBlanks && c == '#' then p.accepts fuel (t.dropWhile (· != '\n'))
      else
        (literal? p.flags c).isSome && { p with repeatable := true }.accepts fuel t

/-- Whether a text is a well-formed pattern. -/
def isValid (t : Text) : Bool := isNumber t || ({} : Progress).accepts (t.length + 1) t

end Morphing.Cli.ValuePattern
