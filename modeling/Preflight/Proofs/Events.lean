import Preflight.Proofs.Rehearsal
import Preflight.Proofs.Search
import Preflight.Proofs.Verdict

/-!
# What a run says

Each part of a run speaks for itself and in turn: the resolver while it looks
for the tool, the gate about its answer, and then either the failure of the
check or one account for each program that was asked. This module puts the
parts together, in the order of the calls, and tells what a search says from
the candidates alone.

Nothing of this depends on the sink, on the form of the report or on whether
events are shown.

## Main results

* `Check.events_run` — what a check says, part by part.
* `Resolver.events_of_first`, `Resolver.events_of_none` — what a search says
  that ends at a file, or at none.
* `Verdict.events_of_reach` — everything that a run says.
-/

namespace Preflight

namespace Check

/-! ## The gate and behind it -/

/-- What is said about a resolver's answer for the required tool. -/
def verdictEvent (tool : String) : Option ResolvedTool → Event
  | none => .toolNotFound tool
  | some ⟨path, false⟩ => .toolNotExecutable tool path
  | some ⟨path, true⟩ => .usingTool tool path

theorem events_requiredPath (resolver : Resolver) (tool : String) :
    (requiredPath resolver tool).events
      = (resolver tool).events ++ [verdictEvent tool (resolver tool).answer] := by
  unfold requiredPath
  rcases (resolver tool).answer with _ | ⟨path, _ | _⟩ <;> simp [verdictEvent]

/--
What is said about a program that was asked for its version: why it could not
be started, or which version it announced, and before that its exit code
unless it is 0.
-/
def account (program flag : String) :
    Except StartError Captured → List Event
  | .error cause => [.couldNotRun program flag cause.message]
  | .ok captured =>
    (if captured.exitCode = some 0 then []
      else [.exitedWith program flag captured.exitCode])
      ++ [.reportsVersion program (.ofOutput captured.combined)]

@[simp] theorem events_queryVersion (invoker : Invoker)
    (flag program : String) :
    (queryVersion invoker flag program).events
      = account program flag (invoker ⟨program, [flag]⟩) := by
  simp only [queryVersion, Traced.events_bind, Traced.events_invoke,
    Traced.value_invoke, List.nil_append]
  cases invoker ⟨program, [flag]⟩ with
  | error cause => simp [account]
  | ok captured => simp [account, exitEvents, Captured.succeeded]

/-- What is said about calls, one account after another. -/
def accounts (invoker : Invoker) (flag : String) (calls : List Call) :
    List Event :=
  calls.flatMap fun call => account call.program flag (invoker call)

theorem events_interpreters (invoker : Invoker) (config : Config)
    (path : Bytes) :
    (interpreters invoker config path).events
      = accounts invoker config.versionFlag (plannedCalls config) := by
  cases h : config.legacyInterpreter <;>
    simp [interpreters, queryOptional, plannedCalls, accounts, h]

/-- A check speaks of the search, of the gate, and of each call behind it. -/
theorem events_run (resolver : Resolver) (invoker : Invoker)
    (config : Config) :
    (run resolver invoker config).events =
      (resolver config.requiredTool.name).events
        ++ verdictEvent config.requiredTool.name
            (resolver config.requiredTool.name).answer
        :: accounts invoker config.versionFlag
            (run resolver invoker config).calls := by
  rw [calls_run]
  simp only [run, Traced.events_bind, events_requiredPath]
  cases (requiredPath resolver config.requiredTool.name).value with
  | error failure => simp [accounts]
  | ok path => simp [events_interpreters]

end Check

/-! ## Searches -/

namespace Resolver

variable {tree : FileTree} {entries : List Bytes} {name : String}

/-- A search mentions the files before the one it ends at, and then that one. -/
theorem events_of_first (hName : Bare name) {before behind : List Bytes}
    {path : Bytes} (hSplit : candidates entries name = before ++ path :: behind)
    (h : tree.Usable path) (hBefore : ∀ other ∈ before, ¬ tree.Usable other) :
    (searching tree entries name).events
      = (before.filter tree.isFile).map .skipped ++ [.resolved name path] := by
  rw [searching_of_bare hName, hSplit, SearchPath.search_of_first hBefore h]

/-- A search that ends at no file has mentioned all there are. -/
theorem events_of_none (hName : Bare name)
    (h : ∀ path ∈ candidates entries name, ¬ tree.Usable path) :
    (searching tree entries name).events
      = ((candidates entries name).filter tree.isFile).map .skipped := by
  rw [searching_of_none hName h]

/-- What is not searched for is not spoken of. -/
theorem events_of_not_bare (h : ¬ Bare name) :
    (searching tree entries name).events = [] := by
  rcases empty_or_path_or_bare name with rfl | hPath | hBare
  · rfl
  · rw [searching_of_path hPath]
  · exact absurd hBare h

end Resolver

/-! ## Whole runs -/

namespace Verdict

section Outcomes

variable (options : Options) (resolver : Resolver) (invoker : Invoker)
  (sink : Sink)

/-- A check that fails for want of the tool says so, and nothing behind that. -/
theorem events_reach_of_shut {answer : Option ResolvedTool}
    (hAnswer : (resolver options.tool).answer = answer)
    (hShut : Check.Shut answer) :
    ∃ failure, Check.gate options.tool answer = .error failure ∧
      (reach options resolver invoker sink).events
        = (resolver options.tool).events
          ++ [Check.verdictEvent options.tool answer,
              .preflightFailed failure] := by
  obtain ⟨failure, hGate, hMissing⟩ := Check.gate_eq_error options.tool hShut
  subst hAnswer
  have hRun : (Check.run resolver invoker options.config).value
      = .error failure := by
    rw [Check.value_run]
    show (Check.gate options.tool (resolver options.tool).answer).map _ = _
    rw [hGate]
    rfl
  refine ⟨failure, hGate, ?_⟩
  rw [events_reach, Check.events_run, hRun, closingEvents, if_pos hMissing,
    Check.calls_run_of_shut resolver invoker options.config hShut]
  simp [Check.accounts, Options.config, RequiredTool.named]

/-- A check that passes accounts for the programs that were asked. -/
theorem events_reach_of_open {path : Bytes}
    (h : (resolver options.tool).answer = some ⟨path, true⟩) :
    (reach options resolver invoker sink).events
      = (resolver options.tool).events ++ .usingTool options.tool path
        :: Check.accounts invoker "-V"
            (reach options resolver invoker sink).calls := by
  rw [events_reach, calls_reach, Check.events_run,
    Check.value_run_of_open resolver invoker options.config h, closingEvents,
    List.append_nil]
  show _ ++ Check.verdictEvent options.tool (resolver options.tool).answer
    :: _ = _
  rw [h]
  rfl

end Outcomes

/--
Everything that a run says, in order: what the resolver says; what is made of
its answer; and then that the check failed, and no more, or else an account
of each program that was asked, in the order of the calls, with the version
that the report shows. Over the directories of a tree the resolver mentions,
in order, the files before the first that is usable, and then that one; or
all files, if none is. A name that is not searched for is not spoken of, and
registered tools are found in silence. Neither the sink nor the form of the
report makes a difference, and neither does whether events are shown.
-/
theorem events_of_reach (options : Options) (resolver : Resolver)
    (invoker : Invoker) (sink : Sink) :
    let tool := options.tool
    let resolution := resolver tool
    let run := reach options resolver invoker sink
    (resolution.answer = none →
      run.events = resolution.events
        ++ [.toolNotFound tool, .preflightFailed (.toolNotFound tool)]) ∧
    (∀ path, resolution.answer = some ⟨path, false⟩ →
      run.events = resolution.events
        ++ [.toolNotExecutable tool path,
            .preflightFailed (.toolNotExecutable tool path)]) ∧
    (∀ path, resolution.answer = some ⟨path, true⟩ →
      run.events = resolution.events
        ++ .usingTool tool path :: Check.accounts invoker "-V" run.calls ∧
      ∃ report,
        (Check.run resolver invoker options.config).value = .ok report ∧
        (∀ captured,
          invoker ⟨options.interpreter, ["-V"]⟩ = .ok captured →
          report.version = .ofOutput captured.combined) ∧
        ∀ captured, options.noLegacy = false →
          invoker ⟨options.legacyInterpreter, ["-V"]⟩ = .ok captured →
          report.legacyVersion = some (.ofOutput captured.combined)) ∧
    (∀ tree entries, resolver = .searching tree entries →
      let candidates := Resolver.candidates entries tool
      (Resolver.Bare tool →
        (∀ before path behind, candidates = before ++ path :: behind →
          tree.Usable path → (∀ other ∈ before, ¬ tree.Usable other) →
          resolution.events = (before.filter tree.isFile).map .skipped
            ++ [.resolved tool path]) ∧
        ((∀ path ∈ candidates, ¬ tree.Usable path) →
          resolution.events
            = (candidates.filter tree.isFile).map .skipped)) ∧
      (¬ Resolver.Bare tool → resolution.events = [])) ∧
    (∀ stage : Stage, resolver = stage.resolver → resolution.events = []) ∧
    ∀ otherSink json debug,
      (reach { options with json := json, debug := debug } resolver invoker
        otherSink).events = run.events := by
  intro tool resolution run
  refine ⟨?_, ?_, ?_, ?_, ?_, ?_⟩
  · intro hNone
    obtain ⟨failure, hGate, hEvents⟩ :=
      events_reach_of_shut options resolver invoker sink hNone (.inl rfl)
    cases hGate
    exact hEvents
  · intro path hFound
    obtain ⟨failure, hGate, hEvents⟩ :=
      events_reach_of_shut options resolver invoker sink hFound
        (.inr ⟨path, rfl⟩)
    cases hGate
    exact hEvents
  · intro path hFound
    have hRun :=
      Check.value_run_of_open resolver invoker options.config hFound
    refine ⟨events_reach_of_open options resolver invoker sink hFound, _, hRun,
      ?_, ?_⟩
    · intro captured hCaptured
      simp [Check.findings, Check.announced, Options.config,
        Config.standardFlag, hCaptured]
    · intro captured hLegacy hCaptured
      simp [Check.findings, Check.announced, Options.config,
        Config.standardFlag, hLegacy, hCaptured]
  · rintro tree entries rfl candidates
    refine ⟨?_, Resolver.events_of_not_bare⟩
    intro hBare
    constructor
    · intro before path behind hSplit hUsable hBefore
      exact Resolver.events_of_first hBare hSplit hUsable hBefore
    · exact Resolver.events_of_none hBare
  · rintro stage rfl
    rfl
  · intro otherSink json debug
    show (reach _ _ _ _).events = (reach options resolver invoker sink).events
    rw [events_reach, events_reach]
    rfl

/-- With a file that is passed by twice, a fault and a missing interpreter. -/
theorem events_of_reach_past_a_plain_file :
    let tool := "pg_config"
    let plain := Utf8.encode "a/pg_config"
    let usable := Utf8.encode "b/pg_config"
    let tree := FileTree.ofEntries
      [⟨plain, .file 0o644 .silent⟩, ⟨usable, .file 0o755 .silent⟩]
    let entries := [Utf8.encode "a", Utf8.encode "a", Utf8.encode "b"]
    let invoker : Invoker := fun call =>
      if call.program = "python" then .ok ⟨some 3, "Python 3.12.1", ""⟩
      else .error (.unknownProgram call.program)
    (reach .standard (.searching tree entries) invoker .unlimited).events
      = [.skipped plain, .skipped plain, .resolved tool usable,
          .usingTool tool usable, .exitedWith "python" "-V" (some 3),
          .reportsVersion "python" (.ofOutput "Python 3.12.1"),
          .couldNotRun "python2.7" "-V"
            (StartError.unknownProgram "python2.7").message] := by
  intro tool plain usable tree entries invoker
  obtain ⟨-, -, hOpen, hSearching, -⟩ := events_of_reach .standard
    (.searching tree entries) invoker .unlimited
  have hFound : (Resolver.searching tree entries tool).answer
      = some ⟨usable, true⟩ := by
    decide +kernel
  have hBefore : ∀ other ∈ [plain, plain], ¬ tree.Usable other := by
    simp only [FileTree.usable_iff]
    decide +kernel
  have hUsable : tree.Usable usable := by
    rw [FileTree.usable_iff]
    decide +kernel
  have hEvents : (Resolver.searching tree entries tool).events
      = ([plain, plain].filter tree.isFile).map .skipped
        ++ [.resolved tool usable] := by
    have hBare : Resolver.Bare tool := ⟨by decide, by decide⟩
    have hFirst := ((hSearching tree entries rfl).1 hBare).1
    exact hFirst [plain, plain] usable [] (by decide +kernel) hUsable hBefore
  have hPlain : [plain, plain].filter tree.isFile = [plain, plain] := by
    decide +kernel
  have hCalls : (reach .standard (.searching tree entries) invoker
      .unlimited).calls = [⟨"python", ["-V"]⟩, ⟨"python2.7", ["-V"]⟩] := by
    rw [calls_reach]
    exact Check.calls_run_of_open _ invoker Options.standard.config hFound
  rw [(hOpen usable hFound).1, hCalls]
  show (Resolver.searching tree entries tool).events ++ _ = _
  rw [hEvents, hPlain]
  rfl

end Verdict

end Preflight
