import ScopeAtlas.Command.Run
import ScopeAtlas.Data.Json
import ScopeAtlas.Workspace.Snapshot

/-!
# The program

The words of the command line say what is asked for, and the workspace comes as a
snapshot on the standard input.  Everything else is decided by `Command.run`.
-/

namespace ScopeAtlas.Command

open ScopeAtlas.Data ScopeAtlas.Language ScopeAtlas.Workspace

/-- As many calls may be open at a time, unless the program is told otherwise. -/
def usualCalls : Nat := 1000

/-- Runs the program on the text of a snapshot. -/
def runOn (written : String) (words : List String) : Outcome :=
  match (Json.read written).toOption.bind (Snapshot.ofValue? Registry.standard) with
  | none => { exitCode := 1, stderr := "Error: the snapshot cannot be read\n" }
  | some snapshot =>
      let engine := { parse := storedParser snapshot.parsed, stack := .ofCalls usualCalls }
      run "scopegraph" snapshot.surroundings engine Registry.standard words

/-- Reads a stream to its end. -/
partial def readAll (stream : IO.FS.Stream) (read : String) : IO String := do
  let line ← stream.getLine
  if line.isEmpty then return read else readAll stream (read ++ line)

end ScopeAtlas.Command

/-- Answers the command line. -/
def main (words : List String) : IO UInt32 := do
  let written ← ScopeAtlas.Command.readAll (← IO.getStdin) ""
  let outcome := ScopeAtlas.Command.runOn written words
  (← IO.getStdout).putStr outcome.stdout
  (← IO.getStderr).putStr outcome.stderr
  return outcome.exitCode.toUInt32
