import Morphing.Cli.LogFilter

/-!
# Log records

A record is a message with a level and a target, the part of the program that it comes from. As a
line it begins with the time. Colours, if wanted, mark the level, and all else but the message is
dimmed.
-/

namespace Morphing.Cli

/-- The targets of the log. -/
inductive Target where
  | program
  | optionsFile
  | morph
  | linePairs
  | tokenPairs
deriving DecidableEq, Repr

/-- The name of a target. -/
def Target.name : Target → String
  | program => "morph_text"
  | optionsFile => "morph_text::cli::options_file"
  | morph => "morph_text::morph"
  | linePairs => "morph_text::morph::line_pairer"
  | tokenPairs => "morph_text::morph::token_pairer"

/-- A message of the log. -/
structure LogRecord where
  target : Target
  level : Level
  message : String
deriving DecidableEq, Repr

/-- The part of the program that an event comes from. -/
def Target.ofEvent : Event → Target
  | .replacedToken _ | .droppedTokens _ => tokenPairs
  | .droppedLine _ | .resolving .. => linePairs
  | .morphed .. => morph

namespace LogRecord

/-- The record of an event. -/
def ofEvent (e : Event) : LogRecord := ⟨.ofEvent e, e.level, e.message⟩

/-- The name of a level, set right in five columns. -/
def paddedLevel (l : Level) : String :=
  String.ofList (List.replicate (5 - l.name.length) ' ') ++ l.name

/-- The number of the colour that marks a level. -/
def colorCode : Level → Nat
  | .error => 31
  | .warn => 33
  | .info => 32
  | .debug => 34
  | .trace => 35

/-- A text between the escapes that switch a display attribute on and off. -/
def styled (code : Nat) (s : String) : String := s!"\x1b[{code}m" ++ s ++ "\x1b[0m"

/-- The attribute of dimmed text. -/
def dim : Nat := 2

/-- How a message shows a character: controls that a terminal could take for the beginning of an
escape sequence are spelled out. -/
def defused (c : Char) : Text :=
  match c with
  | '\x07' | '\x08' | '\x0c' | '\x1b' | '\x7f' =>
    let digits := Text.hexadecimal c.toNat
    ['\\', 'x'] ++ List.replicate (2 - digits.length) '0' ++ digits
  | c =>
    if 0x80 ≤ c.toNat ∧ c.toNat ≤ 0x9F then
      ['\\', 'u', '\x7b'] ++ Text.hexadecimal c.toNat ++ ['\x7d']
    else [c]

/-- The message of a record, safe to be shown on a terminal. -/
def safeMessage (r : LogRecord) : String := String.ofList (r.message.toList.flatMap defused)

/-- A record as a line that begins with the given time. -/
def render (color : Bool) (time : String) (r : LogRecord) : String :=
  if color then
    styled dim time ++ " " ++ styled (colorCode r.level) (paddedLevel r.level) ++ " " ++
      styled dim r.target.name ++ styled dim ":" ++ " " ++ r.safeMessage
  else time ++ " " ++ paddedLevel r.level ++ " " ++ r.target.name ++ ": " ++ r.safeMessage

end LogRecord

/-- Whether a record is shown. -/
def LogFilter.admits (f : LogFilter) (r : LogRecord) : Bool :=
  f.shows r.target.name.toList r.level

/-- The filter for records of the program of the usual detail, or `verbosity` levels more. -/
def LogFilter.ofVerbosity (verbosity : Int) : LogFilter :=
  let rank := min ((Level.info.rank : Int) + verbosity).toNat Level.trace.rank
  ⟨[{ target := some Target.program.name.toList, rank }]⟩

end Morphing.Cli
