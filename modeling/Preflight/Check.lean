import Preflight.Invoker
import Preflight.Report
import Preflight.Resolver

/-!
# The check

The required tool is the gate: unless it resolves to an executable file,
the check fails and no program is started. Behind the gate nothing fails
any more. The interpreters are asked for their versions one after the
other; one that cannot be started reports none, and one that ends with a
fault is believed all the same.

## Main results

* `Check.calls_run` — behind the gate each configured interpreter is
  started once, in order; before it none is.
-/

namespace Preflight

namespace Check

/-- Finds the required tool, which has to be executable. -/
def requiredPath (resolver : Resolver) (tool : String) :
    Traced (Except Failure Bytes) := do
  Traced.say (resolver tool).events
  match (resolver tool).answer with
  | none =>
    Traced.say [.toolNotFound tool]
    return .error (.toolNotFound tool)
  | some ⟨path, false⟩ =>
    Traced.say [.toolNotExecutable tool path]
    return .error (.toolNotExecutable tool path)
  | some ⟨path, true⟩ =>
    Traced.say [.usingTool tool path]
    return .ok path

/-- What is said about an exit code: nothing if it is 0. -/
def exitEvents (program flag : String) (captured : Captured) : List Event :=
  if captured.succeeded then []
  else [.exitedWith program flag captured.exitCode]

/-- Asks a program for its version; `none` if it cannot be started. -/
def queryVersion (invoker : Invoker) (flag program : String) :
    Traced (Option Version) := do
  match ← Traced.invoke invoker ⟨program, [flag]⟩ with
  | .error cause =>
    Traced.say [.couldNotRun program flag cause.message]
    return none
  | .ok captured =>
    let version := Version.ofOutput captured.combined
    Traced.say (exitEvents program flag captured)
    Traced.say [.reportsVersion program version]
    return some version

/-- Asks a program for its version, if there is one to ask. -/
def queryOptional (invoker : Invoker) (flag : String) :
    Option String → Traced (Option Version)
  | none => return none
  | some program => queryVersion invoker flag program

/-- Asks the interpreters of a configuration for their versions. -/
def interpreters (invoker : Invoker) (config : Config) (path : Bytes) :
    Traced Report := do
  let version ← queryVersion invoker config.versionFlag config.interpreter
  let legacy ←
    queryOptional invoker config.versionFlag config.legacyInterpreter
  return ⟨path, version.getD .empty, legacy⟩

/-- The whole check. -/
def run (resolver : Resolver) (invoker : Invoker) (config : Config) :
    Traced (Except Failure Report) := do
  match ← requiredPath resolver config.requiredTool.name with
  | .error failure => return .error failure
  | .ok path => return .ok (← interpreters invoker config path)

/-! ## Calls -/

/-- The interpreters of a configuration, each with the flag. -/
def plannedCalls (config : Config) : List Call :=
  ⟨config.interpreter, [config.versionFlag]⟩
    :: config.legacyInterpreter.toList.map (⟨·, [config.versionFlag]⟩)

@[simp] theorem calls_requiredPath (resolver : Resolver) (tool : String) :
    (requiredPath resolver tool).calls = [] := by
  unfold requiredPath
  rcases (resolver tool).answer with _ | ⟨path, _ | _⟩ <;> simp

@[simp] theorem calls_queryVersion (invoker : Invoker)
    (flag program : String) :
    (queryVersion invoker flag program).calls = [⟨program, [flag]⟩] := by
  simp only [queryVersion, Traced.calls_bind, Traced.calls_invoke,
    Traced.value_invoke]
  cases invoker ⟨program, [flag]⟩ <;> simp

@[simp] theorem calls_interpreters (invoker : Invoker) (config : Config)
    (path : Bytes) :
    (interpreters invoker config path).calls = plannedCalls config := by
  cases h : config.legacyInterpreter <;>
    simp [interpreters, plannedCalls, queryOptional, h]

/--
Behind the gate each configured interpreter is started once, in order, and
before it none is.
-/
theorem calls_run (resolver : Resolver) (invoker : Invoker)
    (config : Config) :
    (run resolver invoker config).calls =
      match (requiredPath resolver config.requiredTool.name).value with
      | .error _ => []
      | .ok _ => plannedCalls config := by
  simp only [run, Traced.calls_bind, calls_requiredPath, List.nil_append]
  cases (requiredPath resolver config.requiredTool.name).value <;> simp

end Check

end Preflight
