import Preflight.Check

/-!
# What a check finds

A check is a series of effects, and this module says what value each step
of the series has: as a function of what the resolver answers and of what
the invoker gives for the calls that are made. What a step says on the way
and which programs it starts is left to the lemmas beside the definitions.

## Main results

* `value_run` — a check is a test of the resolver's answer, followed by
  findings that depend on the invoker alone.
* `gate_eq_ok_iff`, `gate_eq_error` — the test is passed by exactly the
  files that may be executed, and failed as a missing tool by all else.
* `value_run_eq_ok_iff` — when a check passes, and what it reports.
-/

namespace Preflight

namespace Check

/-! ## The gate -/

/-- What is made of a resolver's answer. -/
def gate (tool : String) : Option ResolvedTool → Except Failure Bytes
  | none => .error (.toolNotFound tool)
  | some ⟨path, false⟩ => .error (.toolNotExecutable tool path)
  | some ⟨path, true⟩ => .ok path

/-- An answer that keeps the gate shut: no file, or one not to be executed. -/
def Shut (answer : Option ResolvedTool) : Prop :=
  answer = none ∨ ∃ path, answer = some ⟨path, false⟩

theorem gate_eq_ok_iff {tool : String} {answer : Option ResolvedTool}
    {path : Bytes} :
    gate tool answer = .ok path ↔ answer = some ⟨path, true⟩ := by
  rcases answer with _ | ⟨found, _ | _⟩ <;> simp [gate]

theorem gate_eq_error (tool : String) {answer : Option ResolvedTool}
    (h : Shut answer) :
    ∃ failure, gate tool answer = .error failure ∧
      failure.isMissingTool = true := by
  rcases h with rfl | ⟨path, rfl⟩
  · exact ⟨_, rfl, rfl⟩
  · exact ⟨_, rfl, rfl⟩

/-- An answer either shuts the gate or holds a file that may be executed. -/
theorem shut_or_open (answer : Option ResolvedTool) :
    Shut answer ∨ ∃ path, answer = some ⟨path, true⟩ := by
  rcases answer with _ | ⟨path, _ | _⟩
  · exact .inl (.inl rfl)
  · exact .inl (.inr ⟨path, rfl⟩)
  · exact .inr ⟨path, rfl⟩

theorem value_requiredPath (resolver : Resolver) (tool : String) :
    (requiredPath resolver tool).value = gate tool (resolver tool).answer := by
  unfold requiredPath
  rcases (resolver tool).answer with _ | ⟨path, _ | _⟩ <;> rfl

/-! ## Behind the gate -/

/-- The version that an interpreter announces, if it can be started. -/
def announced (invoker : Invoker) (flag program : String) : Option Version :=
  match invoker ⟨program, [flag]⟩ with
  | .error _ => none
  | .ok captured => some (.ofOutput captured.combined)

@[simp] theorem value_queryVersion (invoker : Invoker)
    (flag program : String) :
    (queryVersion invoker flag program).value
      = announced invoker flag program := by
  simp only [queryVersion, announced, Traced.value_bind, Traced.value_invoke]
  cases invoker ⟨program, [flag]⟩ <;> rfl

@[simp] theorem value_queryOptional (invoker : Invoker) (flag : String)
    (program : Option String) :
    (queryOptional invoker flag program).value
      = program.bind (announced invoker flag) := by
  cases program with
  | none => rfl
  | some program => exact value_queryVersion invoker flag program

/-- What a check reports of a tool that lies at `path`. -/
def findings (invoker : Invoker) (config : Config) (path : Bytes) : Report where
  toolPath := path
  version :=
    (announced invoker config.versionFlag config.interpreter).getD .empty
  legacyVersion :=
    config.legacyInterpreter.bind (announced invoker config.versionFlag)

@[simp] theorem value_interpreters (invoker : Invoker) (config : Config)
    (path : Bytes) :
    (interpreters invoker config path).value
      = findings invoker config path := by
  simp [interpreters, findings]

/-! ## The whole check -/

theorem value_run (resolver : Resolver) (invoker : Invoker)
    (config : Config) :
    (run resolver invoker config).value
      = (gate config.requiredTool.name
          (resolver config.requiredTool.name).answer).map
            (findings invoker config) := by
  simp only [run, Traced.value_bind, value_requiredPath]
  cases gate config.requiredTool.name
    (resolver config.requiredTool.name).answer with
  | error failure => rfl
  | ok path => simp [Except.map]

section Gate

variable (resolver : Resolver) (invoker : Invoker) (config : Config)

/-- A check fails in front of a gate that is shut, for want of the tool. -/
theorem value_run_of_shut
    (h : Shut (resolver config.requiredTool.name).answer) :
    ∃ failure, (run resolver invoker config).value = .error failure ∧
      failure.isMissingTool = true := by
  obtain ⟨failure, hGate, hMissing⟩ :=
    gate_eq_error config.requiredTool.name h
  refine ⟨failure, ?_, hMissing⟩
  rw [value_run, hGate]
  rfl

/-- Behind an open gate it does not fail. -/
theorem value_run_of_open {path : Bytes}
    (h : (resolver config.requiredTool.name).answer = some ⟨path, true⟩) :
    (run resolver invoker config).value
      = .ok (findings invoker config path) := by
  rw [value_run, gate_eq_ok_iff.mpr h]
  rfl

/-- A check passes behind an open gate only, and reports its findings. -/
theorem value_run_eq_ok_iff {report : Report} :
    (run resolver invoker config).value = .ok report ↔
      ∃ path, (resolver config.requiredTool.name).answer = some ⟨path, true⟩ ∧
        report = findings invoker config path := by
  constructor
  · intro h
    rcases shut_or_open (resolver config.requiredTool.name).answer
      with hShut | ⟨path, hOpen⟩
    · obtain ⟨failure, hFailure, -⟩ :=
        value_run_of_shut resolver invoker config hShut
      rw [hFailure] at h
      cases h
    · rw [value_run_of_open resolver invoker config hOpen] at h
      exact ⟨path, hOpen, (Except.ok.inj h).symm⟩
  · rintro ⟨path, hOpen, rfl⟩
    exact value_run_of_open resolver invoker config hOpen

/-- No program is started in front of a gate that is shut. -/
theorem calls_run_of_shut
    (h : Shut (resolver config.requiredTool.name).answer) :
    (run resolver invoker config).calls = [] := by
  obtain ⟨failure, hGate, -⟩ := gate_eq_error config.requiredTool.name h
  rw [calls_run, value_requiredPath, hGate]

/-- Behind an open gate the planned programs are started, whatever they do. -/
theorem calls_run_of_open {path : Bytes}
    (h : (resolver config.requiredTool.name).answer = some ⟨path, true⟩) :
    (run resolver invoker config).calls = plannedCalls config := by
  rw [calls_run, value_requiredPath, h]
  rfl

end Gate

end Check

end Preflight
