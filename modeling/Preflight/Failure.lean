import Preflight.Text.Utf8

/-!
# Why a check fails

The two failures of the required tool are told apart here and in the log,
and treated alike by the report. Every other failure is one of writing the
report.
-/

namespace Preflight

/-- The cause of a failed check. -/
inductive Failure where
  /-- No file by the tool's name was found. -/
  | toolNotFound (tool : String)
  /-- A file by the tool's name was found, but it may not be run. -/
  | toolNotExecutable (tool : String) (path : Bytes)
  /-- The report could not be written, in the words of the sink. -/
  | io (text : String)
  /-- Any other cause, with the contexts it was met in, the outermost last. -/
  | other (text : String) (contexts : List String)
  deriving DecidableEq

namespace Failure

/-- What is told of a failure. Of a cause met in contexts only the outermost is told. -/
def message : Failure → String
  | .toolNotFound tool => "Required tool '" ++ tool ++ "' not found on PATH"
  | .toolNotExecutable tool path =>
    "Required tool '" ++ tool ++ "' at " ++ Utf8.decodeLossy path
      ++ " is not executable"
  | .io text => "IO error: " ++ text
  | .other text contexts => contexts.getLast?.getD text

/-- Whether the failure is that the required tool cannot be used. -/
def isMissingTool : Failure → Bool
  | .toolNotFound _ | .toolNotExecutable _ _ => true
  | .io _ | .other _ _ => false

end Failure

end Preflight
