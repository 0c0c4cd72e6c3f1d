import Preflight.FileTree.Manifest
import Preflight.Program

/-!
# Command line

Runs the program on the machine that the manifest on standard input
describes, with the arguments and the environment of the process.

    preflight --json < machine.txt

All that is decided is decided by `Program.run`; this module reads, prints
and hands over the exit status.
-/

namespace Preflight

/-- Everything that is left to read from a stream. -/
partial def readRest (stream : IO.FS.Stream) (front : String) : IO String := do
  let line ← stream.getLine
  if line.isEmpty then return front
  readRest stream (front ++ line)

/-- The bytes of an environment variable that is set. -/
def variableBytes (name : String) : IO (Option Bytes) := do
  return (← IO.getEnv name).map Utf8.encode

/-- The variables that the program reads. -/
def readEnvironment : IO Environment := do
  let tool ← variableBytes Setting.tool.variableName
  let interpreter ← variableBytes Setting.interpreter.variableName
  let legacy ← variableBytes Setting.legacyInterpreter.variableName
  return {
    fallbacks := fun
      | .tool => tool
      | .interpreter => interpreter
      | .legacyInterpreter => legacy
    searchPath := ← variableBytes "PATH"
    logFilter := ← variableBytes "RUST_LOG" }

/-- Runs the program on the manifest and gives its exit status. -/
def runOnManifest (arguments : List String) : IO UInt32 := do
  let manifest ← readRest (← IO.getStdin) ""
  let exit := Program.run (.ofManifest manifest) (← readEnvironment)
    (arguments.map Utf8.encode) .unlimited
  let output ← IO.getStdout
  output.write ⟨exit.output.toArray⟩
  output.flush
  IO.eprint exit.errors
  return exit.status.toUInt32

end Preflight

def main (arguments : List String) : IO UInt32 :=
  Preflight.runOnManifest arguments
