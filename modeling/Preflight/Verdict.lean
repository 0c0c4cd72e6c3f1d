import Preflight.Check
import Preflight.CommandLine.Options

/-!
# The verdict

Checking and reporting in one go: a check that passed is reported in the
form asked for, one that failed for want of the required tool by the
diagnostic, and the verdict says which. Only what keeps the report from
being written is left as a failure.

## Main results

* `Verdict.calls_reach`, `Verdict.events_reach` — writing the report starts
  no program, and says nothing but that the check failed.
-/

namespace Preflight

/-- How a check came out. -/
inductive Verdict where
  | passed
  | missingTool
  deriving DecidableEq

namespace Verdict

/-- The exit status that tells of a verdict. -/
def status : Verdict → UInt8
  | .passed => 0
  | .missingTool => 1

/-- Writes a report in the form asked for. -/
def writeReport (options : Options) (report : Report) (sink : Sink) :
    Except Failure Unit × Sink :=
  if options.json then report.writeJson sink else report.writeText sink

/-- A verdict, if what was to be written could be. -/
def onceWritten (verdict : Verdict) (written : Except Failure Unit × Sink) :
    Except Failure Verdict × Sink :=
  (written.1.map fun _ => verdict, written.2)

/-- Writes what a check gave. -/
def conclude (options : Options) (sink : Sink) :
    Except Failure Report → Except Failure Verdict × Sink
  | .ok report => passed.onceWritten (writeReport options report sink)
  | .error failure =>
    if failure.isMissingTool then
      missingTool.onceWritten (options.config.requiredTool.writeDiagnostic sink)
    else (.error failure, sink)

/-- What is said about the outcome of a check. -/
def closingEvents : Except Failure Report → List Event
  | .ok _ => []
  | .error failure =>
    if failure.isMissingTool then [.preflightFailed failure] else []

/-- Makes the check that the options ask for and writes what it gave. -/
def reach (options : Options) (resolver : Resolver) (invoker : Invoker)
    (sink : Sink) : Traced (Except Failure Verdict × Sink) := do
  let outcome ← Check.run resolver invoker options.config
  Traced.say (closingEvents outcome)
  return conclude options sink outcome

theorem calls_reach (options : Options) (resolver : Resolver)
    (invoker : Invoker) (sink : Sink) :
    (reach options resolver invoker sink).calls
      = (Check.run resolver invoker options.config).calls := by
  simp [reach]

theorem events_reach (options : Options) (resolver : Resolver)
    (invoker : Invoker) (sink : Sink) :
    (reach options resolver invoker sink).events
      = (Check.run resolver invoker options.config).events
        ++ closingEvents (Check.run resolver invoker options.config).value := by
  simp [reach]

end Verdict

end Preflight
