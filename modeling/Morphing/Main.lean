import Morphing.Cli.Run
import Morphing.Text.Bytes

/-!
# The program

Reads the files that a run may need, runs it, and shows the response. Log lines begin with the time
in milliseconds since an arbitrary start.
-/

open Morphing

/-- Run the program with the arguments of the command line. -/
def main (args : List String) : IO UInt32 := do
  let args := args.map String.toList
  let contents ← (Cli.filesOf args).filterMapM fun name => do
    try return some (name, ← IO.FS.readBinFile (String.ofList name))
    catch _ => return none
  let environment := (← IO.getEnv "RUST_LOG").map String.toList
  let time := toString (← IO.monoMsNow)
  let response := Cli.run args environment time fun name => contents.lookup name
  let stdout ← IO.getStdout
  stdout.write (Text.toBytes response.stdout)
  stdout.flush
  for line in response.stderr do
    IO.eprintln line
  return response.exit.toUInt32
