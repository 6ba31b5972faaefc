import Morphing.Frame

/-!
# Command line arguments

Two files are named, the old text and the new one. Options can stand anywhere before a lone `--`.
A value follows its option as the next argument, or after `=`, or directly after a short option;
an argument that looks like an option is never a value. Short options can be written together.

Arguments are read from left to right, and the first mistake ends the reading. Asking for the
version or for help does so too, and then nothing else counts. Whether the options go together is
looked at last.
-/

namespace Morphing.Cli

/-- Whether log lines are coloured. `auto` colours nothing, as the log is never written to a
terminal. -/
inductive ColorWhen where
  | always
  | auto
  | never
deriving DecidableEq, Repr

/-- What is written to the output. -/
inductive Mode where
  /-- The text at one budget. -/
  | single (budget : Nat)
  /-- All frames. -/
  | frames (step : Nat)
deriving DecidableEq, Repr

/-- What the arguments ask for. -/
structure Arguments where
  old : Text
  new : Text
  mode : Mode
  optionsFile : Option Text
  /-- How many levels of the log more, or less, than usual are shown. -/
  verbosity : Int
  color : ColorWhen
deriving DecidableEq, Repr

/-- What there is to do. -/
inductive Command where
  | version
  | help
  | morph (arguments : Arguments)
deriving DecidableEq, Repr

/-- An option that takes a value. -/
inductive Setting where
  | budget
  | step
  | options
  | color
deriving DecidableEq, Repr

/-- An option that takes none. -/
inductive Flag where
  | frames
  | verbose
  | quiet
  | version
  | help
deriving DecidableEq, Repr

/-- An option of either kind. -/
inductive Name where
  | setting (s : Setting)
  | flag (f : Flag)
deriving DecidableEq, Repr

/-- The option with a long name. -/
def Name.ofLong? (name : Text) : Option Name :=
  match String.ofList name with
  | "budget" => some (.setting .budget)
  | "step" => some (.setting .step)
  | "options" => some (.setting .options)
  | "color" => some (.setting .color)
  | "frames" => some (.flag .frames)
  | "verbose" => some (.flag .verbose)
  | "quiet" => some (.flag .quiet)
  | "version" => some (.flag .version)
  | "help" => some (.flag .help)
  | _ => none

/-- The option with a short name. -/
def Name.ofShort? : Char → Option Name
  | 'b' => some (.setting .budget)
  | 'v' => some (.flag .verbose)
  | 'q' => some (.flag .quiet)
  | 'V' => some (.flag .version)
  | 'h' => some (.flag .help)
  | _ => none

/-- The arguments read so far. -/
structure Given where
  files : List Text := []
  budget : Option Nat := none
  step : Option Nat := none
  frames : Bool := false
  optionsFile : Option Text := none
  color : Option ColorWhen := none
  verbose : Nat := 0
  quiet : Nat := 0

/-- A number in decimal digits that fits a machine word. -/
def word? (t : Text) : Option Nat := (Text.number? t).filter (· ≤ maxWord)

/-- The choice of colours with a name. -/
def ColorWhen.ofName? (t : Text) : Option ColorWhen :=
  match String.ofList t with
  | "always" => some .always
  | "auto" => some .auto
  | "never" => some .never
  | _ => none

namespace Given

/-- Take in the name of a file. There are two, and a name is never empty. -/
def addFile (g : Given) (name : Text) : Option Given :=
  if name.isEmpty || 2 ≤ g.files.length then none else some { g with files := g.files ++ [name] }

/-- Take in the value of an option, which is given once and is one that the option knows. -/
def set (g : Given) (s : Setting) (value : Text) : Option Given :=
  match s with
  | .budget =>
    if g.budget.isSome then none else do return { g with budget := some (← word? value) }
  | .step => if g.step.isSome then none else do return { g with step := some (← word? value) }
  | .options =>
    if g.optionsFile.isSome || value.isEmpty then none
    else some { g with optionsFile := some value }
  | .color =>
    if g.color.isSome then none else do return { g with color := some (← ColorWhen.ofName? value) }

/-- The command that complete arguments give, if they go together. A step is given for frames; it is
let pass, without effect, where a budget rules out frames. -/
def toCommand? (g : Given) : Option Command :=
  match g.files with
  | [old, new] =>
    if g.frames && g.budget.isSome then none
    else if g.step.isSome && !g.frames && g.budget.isNone then none
    else if 0 < g.verbose && 0 < g.quiet then none
    else
      let mode := if g.frames then .frames (g.step.getD 1) else .single (g.budget.getD 0)
      let verbosity := (g.verbose : Int) - g.quiet
      some (.morph ⟨old, new, mode, g.optionsFile, verbosity, g.color.getD .auto⟩)
  | _ => none

end Given

/-- What reading one argument leads to. -/
inductive Reading where
  /-- Go on reading. -/
  | next (given : Given)
  /-- Go on reading with the value of an option. -/
  | value (setting : Setting) (given : Given)
  /-- Nothing else counts. -/
  | done (command : Command)

/-- Take in an option without a value. -/
def Given.raise (g : Given) : Flag → Option Reading
  | .frames => if g.frames then none else some (.next { g with frames := true })
  | .verbose => some (.next { g with verbose := g.verbose + 1 })
  | .quiet => some (.next { g with quiet := g.quiet + 1 })
  | .version => some (.done .version)
  | .help => some (.done .help)

/-- Read a long option, after its dashes. -/
def Given.readLong (g : Given) (t : Text) : Option Reading := do
  let name := t.takeWhile (· != '=')
  let attached := t.dropWhile (· != '=')
  match ← Name.ofLong? name, attached with
  | .flag f, [] => g.raise f
  | .flag _, _ => none
  | .setting s, [] => return .value s g
  | .setting s, _ :: value => return .next (← g.set s value)

/-- Read what follows a short option with a value: the value, unless nothing does. -/
def Given.readAttached (g : Given) (s : Setting) : Text → Option Reading
  | [] => some (.value s g)
  | '=' :: value => do return .next (← g.set s value)
  | value => do return .next (← g.set s value)

/-- Read short options, after their dash. -/
def Given.readShort (g : Given) : Text → Option Reading
  | [] => some (.next g)
  | c :: rest => do
    match ← Name.ofShort? c with
    | .flag f =>
      match ← g.raise f with
      | .next g => g.readShort rest
      | other => return other
    | .setting s => g.readAttached s rest

mutual

/-- Read arguments that may be options. -/
def Given.read (g : Given) : List Text → Option Command
  | [] => g.toCommand?
  | ['-', '-'] :: args => do
    let g ← args.foldlM addFile g
    g.toCommand?
  | ('-' :: '-' :: long) :: args => do
    match ← g.readLong long with
    | .next g => g.read args
    | .value s g => g.readValue s args
    | .done command => return command
  | ('-' :: c :: short) :: args => do
    match ← g.readShort (c :: short) with
    | .next g => g.read args
    | .value s g => g.readValue s args
    | .done command => return command
  | file :: args => do
    let g ← g.addFile file
    g.read args

/-- Read arguments of which the first is to be the value of an option. -/
def Given.readValue (g : Given) (s : Setting) : List Text → Option Command
  | [] => none
  | ('-' :: _ :: _) :: _ => none
  | value :: args => do
    let g ← g.set s value
    g.read args

end

/-- What the arguments of a command line ask for, unless there is a mistake in them. -/
def Command.parse? (args : List Text) : Option Command := ({} : Given).read args

end Morphing.Cli
