import Preflight.CommandLine.Reader
import Preflight.Machine
import Preflight.Text.Quoted
import Preflight.Verdict

/-!
# The program

The whole program as a function: a machine, an environment, arguments and
an output to write to give an exit status, what was written, and what was
told on the error stream. The report is all that is ever written to the
output, help and version texts apart; events and faults go to the error
stream. Log filters are not read any further than `verboseFilters` goes: what
is told on the error stream is right for these four, for no filter at all, and
for filters that show no event.

## Main results

* `Program.run_halt`, `Program.run_options` — the program by what its
  command line says.
-/

namespace Preflight

/-- The variables of the environment that the program reads. -/
structure Environment where
  /-- Values that settings fall back on. -/
  fallbacks : Fallbacks
  /-- The search path. -/
  searchPath : Option Bytes
  /-- Which events are to be shown. -/
  logFilter : Option Bytes

/-- What the program leaves behind. -/
structure Exit where
  status : UInt8
  /-- What the output took. -/
  output : Bytes
  /-- What was told on the error stream. -/
  errors : String
  /-- The programs that were started, in order. -/
  calls : List Call

namespace Program

/--
Values of the log filter that show events. These four are not all there are:
filters have a language of their own, with lists of directives and with levels
in either case, which is left out. A filter such as `info,pgprobe=debug` or
`DEBUG`, which shows events as well, is taken for one that shows none.
-/
def verboseFilters : List String :=
  ["debug", "trace", "pgprobe=debug", "pgprobe=trace"]

/-- Whether events are shown, by an option or by one of the known filters. -/
def showsEvents (environment : Environment) (options : Options) : Bool :=
  options.debug ||
    match environment.logFilter.bind Utf8.decode? with
    | none => false
    | some filter => verboseFilters.contains filter

/-- A message as a line of the log. -/
def logLine (message : String) : String := "DEBUG " ++ guarded message ++ "\n"

/-- A truth value in words. -/
def truth (b : Bool) : String := if b then "true" else "false"

/-- The options in words, names and values. -/
def describe (options : Options) : String :=
  "Cli \x7b pg_config: " ++ quoted options.tool
    ++ ", python: " ++ quoted options.interpreter
    ++ ", legacy_python: " ++ quoted options.legacyInterpreter
    ++ ", no_legacy: " ++ truth options.noLegacy
    ++ ", json: " ++ truth options.json
    ++ ", debug: " ++ truth options.debug ++ " \x7d"

/-- The first message of a log. -/
def openingMessage (options : Options) : String :=
  "pgprobe starting with args: " ++ describe options

/-- The log of a run, empty if events are not shown. -/
def log (environment : Environment) (options : Options)
    (events : List Event) : String :=
  if showsEvents environment options then
    String.join
      ((openingMessage options :: events.map Event.message).map logLine)
  else ""

/-- What is told of a failure to report. -/
def failureLine : Except Failure Verdict → String
  | .ok _ => ""
  | .error failure => "Error: " ++ failure.message ++ "\n"

/-- The exit status of a run. -/
def statusOf : Except Failure Verdict → UInt8
  | .ok verdict => verdict.status
  | .error _ => Verdict.missingTool.status

/-- The program, once its options are known. -/
def runOptions (tree : FileTree) (environment : Environment)
    (options : Options) (output : Sink) : Exit :=
  let machine : Machine := ⟨tree, environment.searchPath⟩
  let run := Verdict.reach options machine.resolver machine.invoker output
  { status := statusOf run.value.1
    output := run.value.2.written
    errors := log environment options run.events ++ failureLine run.value.1
    calls := run.calls }

/--
The program, if its command line gives no options. A text that was asked
for is lost without a word if the output does not take it.
-/
def runHalt (fallbacks : Fallbacks) (halt : Halt) (output : Sink) : Exit :=
  if halt.isFault then
    ⟨halt.status, output.written, halt.message .stream fallbacks ++ "\n", []⟩
  else
    ⟨halt.status, (output.write [halt.message .stream fallbacks]).2.written,
      "", []⟩

/-- The program. -/
def run (tree : FileTree) (environment : Environment)
    (arguments : List Bytes) (output : Sink) : Exit :=
  match Options.read environment.fallbacks arguments with
  | .error halt => runHalt environment.fallbacks halt output
  | .ok options => runOptions tree environment options output

theorem run_halt {tree : FileTree} {environment : Environment}
    {arguments : List Bytes} {halt : Halt}
    (h : Options.read environment.fallbacks arguments = .error halt)
    (output : Sink) :
    run tree environment arguments output
      = runHalt environment.fallbacks halt output := by
  simp [run, h]

theorem run_options {tree : FileTree} {environment : Environment}
    {arguments : List Bytes} {options : Options}
    (h : Options.read environment.fallbacks arguments = .ok options)
    (output : Sink) :
    run tree environment arguments output
      = runOptions tree environment options output := by
  simp [run, h]

end Program

end Preflight
