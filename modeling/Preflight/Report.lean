import Preflight.Config
import Preflight.Report.Json
import Preflight.Sink
import Preflight.Version

/-!
# Reports

A check that passed is reported as a line of text or as a JSON object, one
that failed for want of the required tool as a diagnostic of two lines.
Each form is a list of pieces that are written one after another. The JSON
object is put together before anything is written, so a path that is not
text keeps every byte from the sink.
-/

namespace Preflight

/-- What a check found that passed. -/
structure Report where
  /-- Where the required tool lies. -/
  toolPath : Bytes
  /-- The version of the interpreter, empty if it could not be run. -/
  version : Version
  /-- The version of the older interpreter, if it was asked and could be run. -/
  legacyVersion : Option Version
  deriving DecidableEq

namespace Report

/-- The report as a line of text. -/
def textPieces (report : Report) : List String :=
  ["Using python ", report.version.text, ".\n"]

/-- An optional version as a JSON value. -/
def versionJson : Option Version → String
  | none => "null"
  | some version => Json.string version.text

/-- The JSON object of a report whose path reads `path`. -/
def jsonOf (path : String) (report : Report) : String :=
  "\x7b\n  \"tool_path\": " ++ Json.string path
    ++ ",\n  \"python_version\": " ++ Json.string report.version.text
    ++ ",\n  \"legacy_version\": " ++ versionJson report.legacyVersion
    ++ "\n\x7d"

/-- The JSON object of a report, unless its path is not text. -/
def json? (report : Report) : Option String :=
  (Utf8.decode? report.toolPath).map fun path => report.jsonOf path

/-- Writes the report as a line of text. -/
def writeText (report : Report) (sink : Sink) : Except Failure Unit × Sink :=
  sink.write report.textPieces

/-- Why a report has no JSON form. -/
def unreadablePath : Failure :=
  .other "path contains invalid UTF-8 characters" []

/-- Writes the report as a JSON object and a line break. -/
def writeJson (report : Report) (sink : Sink) : Except Failure Unit × Sink :=
  match report.json? with
  | none => (.error unreadablePath, sink)
  | some json => sink.write [json, "\n"]

end Report

namespace RequiredTool

/-- What is said about a tool that cannot be used: two lines. -/
def diagnosticPieces (tool : RequiredTool) : List String :=
  [tool.missingMessage, "\n", tool.hint, "\n"]

/-- Writes what is said about a tool that cannot be used. -/
def writeDiagnostic (tool : RequiredTool) (sink : Sink) :
    Except Failure Unit × Sink :=
  sink.write tool.diagnosticPieces

end RequiredTool

end Preflight
