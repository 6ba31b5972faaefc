import Morphing.Cli.Arguments
import Morphing.Cli.LogRecord
import Morphing.Cli.OptionsFile
import Morphing.Frame

/-!
# A run of the program

What the program does is a function of its arguments, of the files that it can read and of the log
filter in its environment. Options are loaded first, then the old and the new text are read, then
both are looked at, and nothing is written unless all that succeeds.

Frames are counted in 32 bits with a sign. Like all arithmetic of a program that is built without
overflow checks, the count wraps around.
-/

namespace Morphing.Cli

/-- Why a run fails after its arguments have been understood. -/
inductive Failure where
  | unreadableOptions (file : Text)
  | invalidOptions
  | unreadable (file : Text)
  | notText (e : MorphError)
deriving DecidableEq, Repr

/-- The failure in words. -/
def Failure.message : Failure → String
  | unreadableOptions file => "Cannot load morph options from " ++ String.ofList file
  | invalidOptions => "Failed to parse morph options"
  | unreadable file => "Cannot read " ++ String.ofList file
  | notText e => e.message

/-- What a run has written and logged, and whether it has failed. -/
structure Outcome where
  output : Text
  records : List LogRecord
  failure : Option Failure
deriving DecidableEq, Repr

/-- The contents of files by name, as far as they can be read. -/
abbrev Files := Text → Option ByteArray

/-- The text of a file that holds UTF-8. -/
def Files.text? (files : Files) (name : Text) : Option Text := do
  (String.fromUTF8? (← files name)).map String.toList

/-- Load options from a file, or use the defaults. -/
def loadOptions (files : Files) : Option Text → List LogRecord × Except Failure Options
  | none => ([⟨.optionsFile, .debug, "Using default morph options"⟩], .ok {})
  | some file =>
    let loading : LogRecord :=
      ⟨.optionsFile, .info, "Loading morph options from '" ++ String.ofList file ++ "'"⟩
    match files.text? file with
    | none => ([loading], .error (.unreadableOptions file))
    | some t =>
      match Options.ofYaml? t with
      | none => ([loading], .error .invalidOptions)
      | some o =>
        ([loading, ⟨.optionsFile, .debug, "Morph options: " ++ o.describe⟩], .ok o)

/-- Read the two texts of a morph. -/
def readMorph (files : Files) (old new : Text) (options : Options) : Except Failure Morph :=
  match files old with
  | none => .error (.unreadable old)
  | some oldBytes =>
    match files new with
    | none => .error (.unreadable new)
    | some newBytes =>
      match Morph.ofBytes oldBytes newBytes options with
      | .error e => .error (.notText e)
      | .ok m => .ok m

/-- What separates frames: a form feed on a line of its own. -/
def frameSeparator : Text := ['\x0c', '\n']

/-- The records of the events of a morph at one budget. -/
def eventRecords (m : Morph) (amount : Nat) : List LogRecord :=
  (m.run (.ofNat amount)).events.map LogRecord.ofEvent

/-- The last record of a run that shows a single frame. -/
def frameRecord (f : Frame) : LogRecord :=
  let state := if f.complete then "complete" else "incomplete"
  ⟨.program, .info, s!"{f.remaining} of {f.budget} budget left, morph " ++ state⟩

/-- The last record of a run that shows all frames. -/
def framesRecord (count : Int32) : LogRecord :=
  ⟨.program, .info, s!"Morph completed after {count} frames"⟩

/-- Write frames behind `count` others, with a separator before each that is not the first, and
count them. The count wraps around: behind `2 ^ 31` frames it is negative. -/
def writeFrames (count : Int32) : List Frame → Text × Int32
  | [] => ([], count)
  | frame :: frames =>
    let separator := if 0 < count then frameSeparator else []
    let (rest, total) := writeFrames (count + 1) frames
    (separator ++ frame.text ++ rest, total)

/-- Write a morph. -/
def writeMorph (m : Morph) : Mode → Text × List LogRecord
  | .single budget =>
    let frame := m.frameAt budget
    (frame.text, eventRecords m budget ++ [frameRecord frame])
  | .frames step =>
    let frames := m.allFrames step
    let (output, count) := writeFrames 0 frames
    (output, frames.flatMap (fun f => eventRecords m f.budget) ++ [framesRecord count])

/-- Do what the arguments ask for. -/
def work (arguments : Arguments) (files : Files) : Outcome :=
  match loadOptions files arguments.optionsFile with
  | (records, .error failure) => ⟨[], records, some failure⟩
  | (records, .ok options) =>
    match readMorph files arguments.old arguments.new options with
    | .error failure => ⟨[], records, some failure⟩
    | .ok m =>
      let (output, more) := writeMorph m arguments.mode
      ⟨output, records ++ more, none⟩

/-- What a run of the program shows. -/
structure Response where
  exit : Nat
  stdout : Text
  stderr : List String
deriving DecidableEq, Repr

/-- The name and version of the program. -/
def versionLine : Text := "morph-text 0.1.0\n".toList

/-- How the program is called. -/
def usageLine : Text := "Usage: morph-text [OPTIONS] <OLD> <NEW>\n".toList

/-- The filter of a run: the one in the environment if there is a valid one, else the one that the
arguments ask for. -/
def LogFilter.ofRun (environment : Option Text) (verbosity : Int) : LogFilter :=
  (environment.bind LogFilter.parse?).getD (.ofVerbosity verbosity)

/-- What an outcome looks like from outside. -/
def Outcome.respond (o : Outcome) (filter : LogFilter) (color : Bool) (time : String) : Response :=
  let lines := (o.records.filter filter.admits).map (LogRecord.render color time)
  match o.failure with
  | none => ⟨0, o.output, lines⟩
  | some failure => ⟨1, o.output, lines ++ ["Error: " ++ failure.message]⟩

/-- Run the program. Mistakes in the arguments are answered by the exit code alone. -/
def run (args : List Text) (environment : Option Text) (time : String) (files : Files) :
    Response :=
  match Command.parse? args with
  | none => ⟨2, [], []⟩
  | some .version => ⟨0, versionLine, []⟩
  | some .help => ⟨0, usageLine, []⟩
  | some (.morph arguments) =>
    (work arguments files).respond (.ofRun environment arguments.verbosity)
      (arguments.color == .always) time

/-- The files that a run may read. -/
def filesOf (args : List Text) : List Text :=
  match Command.parse? args with
  | some (.morph arguments) => arguments.optionsFile.toList ++ [arguments.old, arguments.new]
  | _ => []

end Morphing.Cli
