import Preflight.FileTree.Listing
import Preflight.Proofs.Check
import Preflight.Proofs.Resolver
import Preflight.Proofs.Sink
import Preflight.Proofs.Text.Utf8
import Preflight.Verdict

/-!
# What a verdict depends on

The verdict is decided by the resolver's answer for the required tool. This
module says so in full: what is returned, what is written and which
programs are started on either side of the gate, under which condition the
report cannot be written although the sink takes everything, and what a
sink that becomes full makes of it all.

## Main results

* `Verdict.reach_gate` — the gate decides the status, the output and the
  calls.
* `Verdict.reach_ok_iff` — what else keeps a verdict from being reached.
* `Verdict.reach_cut` — a sink that becomes full changes the output only.
-/

namespace Preflight

namespace Verdict

variable (options : Options) (resolver : Resolver) (invoker : Invoker)
  {sink : Sink}

theorem value_reach (sink : Sink) :
    (reach options resolver invoker sink).value
      = conclude options sink
          (Check.run resolver invoker options.config).value := by
  simp [reach]

/-- In front of a gate that is shut the diagnostic is written. -/
theorem value_reach_of_shut
    (h : Check.Shut (resolver options.tool).answer) :
    (reach options resolver invoker sink).value
      = missingTool.onceWritten
          (options.config.requiredTool.writeDiagnostic sink) := by
  obtain ⟨failure, hRun, hMissing⟩ :=
    Check.value_run_of_shut resolver invoker options.config h
  rw [value_reach, hRun, conclude, if_pos hMissing]

/-- Behind an open gate the findings are written. -/
theorem value_reach_of_open {path : Bytes}
    (h : (resolver options.tool).answer = some ⟨path, true⟩) :
    (reach options resolver invoker sink).value
      = passed.onceWritten (writeReport options
          (Check.findings invoker options.config path) sink) := by
  have hRun := Check.value_run_of_open resolver invoker options.config h
  rw [value_reach, hRun, conclude]

/-! ## Reports in a sink that takes everything -/

theorem bytesOf_diagnosticPieces (tool : RequiredTool) :
    Sink.bytesOf tool.diagnosticPieces
      = Utf8.encode ("No " ++ tool.name ++ " found in your path.\n"
          ++ tool.hint ++ "\n") := by
  have hBreak : Utf8.encode " found in your path.\n"
      = Utf8.encode " found in your path." ++ Utf8.encode "\n" := by
    rw [← Utf8.encode_append]
    rfl
  simp [RequiredTool.diagnosticPieces, RequiredTool.missingMessage, hBreak]

theorem bytesOf_textPieces (report : Report) :
    Sink.bytesOf report.textPieces
      = Utf8.encode ("Using python " ++ report.version.text ++ ".\n") := by
  simp [Report.textPieces]

/-- The diagnostic, in a sink that takes everything. -/
theorem value_reach_diagnostic (hSink : sink.limit = none)
    (h : Check.Shut (resolver options.tool).answer) :
    (reach options resolver invoker sink).value
      = (.ok .missingTool, { sink with
          written := sink.written
            ++ Utf8.encode ("No " ++ options.tool ++ " found in your path.\n"
              ++ RequiredTool.standardHint ++ "\n") }) := by
  rw [value_reach_of_shut options resolver invoker h,
    RequiredTool.writeDiagnostic, Sink.write_of_unlimited hSink,
    bytesOf_diagnosticPieces]
  rfl

/-- The report as text, in a sink that takes everything. -/
theorem value_reach_text {path : Bytes} (hSink : sink.limit = none)
    (h : (resolver options.tool).answer = some ⟨path, true⟩)
    (hText : options.json = false) :
    (reach options resolver invoker sink).value
      = (.ok .passed, { sink with
          written := sink.written
            ++ Utf8.encode ("Using python "
              ++ (Check.findings invoker options.config path).version.text
              ++ ".\n") }) := by
  rw [value_reach_of_open options resolver invoker h, writeReport, hText,
    if_neg Bool.false_ne_true, Report.writeText,
    Sink.write_of_unlimited hSink, bytesOf_textPieces]
  rfl

/-- The report as a JSON object, in a sink that takes everything. -/
theorem value_reach_json {path : String} (hSink : sink.limit = none)
    (h : (resolver options.tool).answer = some ⟨Utf8.encode path, true⟩)
    (hJson : options.json = true) :
    (reach options resolver invoker sink).value
      = (.ok .passed, { sink with
          written := sink.written
            ++ Utf8.encode (Report.jsonOf path
              (Check.findings invoker options.config (Utf8.encode path))
              ++ "\n") }) := by
  have hForm : (Check.findings invoker options.config
      (Utf8.encode path)).json? = some (Report.jsonOf path
        (Check.findings invoker options.config (Utf8.encode path))) := by
    simp [Report.json?, Check.findings]
  rw [value_reach_of_open options resolver invoker h, writeReport, hJson,
    if_pos rfl, Report.writeJson, hForm]
  simp [Sink.write_of_unlimited hSink, onceWritten, Except.map]

/-- A path that is not text has no JSON form, and nothing is written. -/
theorem value_reach_unreadable {path : Bytes}
    (h : (resolver options.tool).answer = some ⟨path, true⟩)
    (hJson : options.json = true) (hPath : ¬ Utf8.IsText path) :
    (reach options resolver invoker sink).value
      = (.error Report.unreadablePath, sink) := by
  have hForm : (Check.findings invoker options.config path).json? = none := by
    simp [Report.json?, Check.findings, Utf8.decode?_eq_none_iff.mpr hPath]
  rw [value_reach_of_open options resolver invoker h, writeReport, hJson,
    if_pos rfl, Report.writeJson, hForm]
  rfl

/-! ## The gate law -/

/--
The gate law, for a sink that takes everything. If the resolver knows no
file for the required tool, or one that may not be executed, the status is
1, the diagnostic is all that is written and no program is started; neither
the form asked for nor which of the two it was, nor any program, makes a
difference. If it knows a file that may be executed, and the form asked for
can be written, the status is 0, the interpreters are started in order,
whatever becomes of them, and the version reported is the one announced.
-/
theorem reach_gate (sink : Sink) (hSink : sink.limit = none) :
    let answer := (resolver options.tool).answer
    let run := reach options resolver invoker sink
    let version :=
      (Check.announced invoker "-V" options.interpreter).getD .empty
    let legacy := if options.noLegacy then none
      else Check.announced invoker "-V" options.legacyInterpreter
    (answer = none ∨ (∃ path, answer = some ⟨path, false⟩) →
      run.value.1.map status = .ok 1 ∧
      run.value.2.written = sink.written
        ++ Utf8.encode ("No " ++ options.tool ++ " found in your path.\n"
          ++ RequiredTool.standardHint ++ "\n") ∧
      run.calls = [] ∧
      ∀ (json : Bool) (other : Resolver) (otherInvoker : Invoker),
        (other options.tool).answer = none ∨
          (∃ path, (other options.tool).answer = some ⟨path, false⟩) →
        let otherRun :=
          reach { options with json := json } other otherInvoker sink
        otherRun.value = run.value ∧ otherRun.calls = run.calls) ∧
    (∀ path, answer = some ⟨path, true⟩ →
      options.json = false ∨ Utf8.IsText path →
      run.value.1.map status = .ok 0 ∧
      run.calls = ⟨options.interpreter, ["-V"]⟩
        :: (if options.noLegacy then []
          else [⟨options.legacyInterpreter, ["-V"]⟩]) ∧
      (options.json = false →
        run.value.2.written = sink.written
          ++ Utf8.encode ("Using python " ++ version.text ++ ".\n")) ∧
      (options.json = true → ∀ text, path = Utf8.encode text →
        run.value.2.written = sink.written
          ++ Utf8.encode
            (Report.jsonOf text ⟨path, version, legacy⟩ ++ "\n"))) := by
  intro answer run version legacy
  constructor
  · intro hShut
    have hValue := value_reach_diagnostic options resolver invoker hSink hShut
    have hCalls : run.calls = [] :=
      (calls_reach options resolver invoker sink).trans
        (Check.calls_run_of_shut resolver invoker options.config hShut)
    refine ⟨by rw [hValue]; rfl, by rw [hValue], hCalls, ?_⟩
    intro json other otherInvoker hOther
    constructor
    · exact (value_reach_diagnostic { options with json := json } other
        otherInvoker hSink hOther).trans hValue.symm
    · have hOtherRun := Check.calls_run_of_shut other otherInvoker
        (Options.config { options with json := json }) hOther
      rw [hCalls, calls_reach, hOtherRun]
  · intro path hOpen hForm
    have hFindings : Check.findings invoker options.config path
        = ⟨path, version, legacy⟩ := by
      simp only [Check.findings, Options.config, legacy]
      cases options.noLegacy <;> rfl
    have hCalls : run.calls = ⟨options.interpreter, ["-V"]⟩
        :: (if options.noLegacy then []
          else [⟨options.legacyInterpreter, ["-V"]⟩]) := by
      refine (calls_reach options resolver invoker sink).trans ?_
      rw [Check.calls_run_of_open resolver invoker options.config hOpen]
      simp only [Check.plannedCalls, Options.config]
      cases options.noLegacy <;> rfl
    cases hJson : options.json with
    | false =>
      have hValue := value_reach_text options resolver invoker hSink hOpen hJson
      rw [hFindings] at hValue
      refine ⟨by rw [hValue]; rfl, hCalls, fun _ => by rw [hValue], ?_⟩
      intro h
      cases h
    | true =>
      obtain ⟨text, rfl⟩ := hForm.resolve_left (by simp [hJson])
      have hValue := value_reach_json options resolver invoker hSink hOpen hJson
      rw [hFindings] at hValue
      refine ⟨by rw [hValue]; rfl, hCalls, ?_, ?_⟩
      · intro h
        cases h
      · intro _ other hOther
        rw [hValue, Utf8.encode_injective hOther]

/-- An interpreter that fails is believed, one that is missing is no loss. -/
theorem reach_gate_of_faulty_interpreters :
    let found : Resolver := fun _ =>
      ⟨some ⟨Utf8.encode "/usr/bin/pg_config", true⟩, []⟩
    let missing : Resolver := fun _ => ⟨none, []⟩
    let invoker : Invoker := fun call =>
      if call.program = "python" then .ok ⟨some 2, "", "Python 3.8.10\n"⟩
      else .error (.unknownProgram call.program)
    let run := reach .standard found invoker .unlimited
    let shut := reach .standard missing invoker .unlimited
    run.value.1.map status = .ok 0 ∧
      run.calls = [⟨"python", ["-V"]⟩, ⟨"python2.7", ["-V"]⟩] ∧
      run.value.2.written = Utf8.encode "Using python 3.8.\n" ∧
      shut.value.1.map status = .ok 1 ∧ shut.calls = [] := by
  intro found missing invoker run shut
  have hOpen := (reach_gate .standard found invoker .unlimited rfl).2
    _ rfl (.inl rfl)
  have hShut := (reach_gate .standard missing invoker .unlimited rfl).1
    (.inl rfl)
  have hVersion : Version.ofOutput "Python 3.8.10\n" = ⟨"3.8"⟩ := by
    decide +kernel
  have hAnnounced : Check.announced invoker "-V" "python" = some ⟨"3.8"⟩ := by
    show some (Version.ofOutput "Python 3.8.10\n") = _
    rw [hVersion]
  have hWritten : run.value.2.written
      = [] ++ Utf8.encode ("Using python " ++ "3.8" ++ ".\n") := by
    rw [hOpen.2.2.1 rfl]
    show _ ++ Utf8.encode (_ ++ ((Check.announced invoker "-V" "python").getD
      .empty).text ++ _) = _
    rw [hAnnounced]
    rfl
  exact ⟨hOpen.1, hOpen.2.1, hWritten, hShut.1, hShut.2.2.1⟩

/-! ## What can go wrong -/

/-- A file that may be executed, under a path that is not text. -/
def Unreadable (answer : Option ResolvedTool) : Prop :=
  ∃ path, answer = some ⟨path, true⟩ ∧ ¬ Utf8.IsText path

/-- Whatever else is found leads to a verdict. -/
theorem value_reach_readable (hSink : sink.limit = none)
    (hForm : ¬ (options.json = true ∧
      Unreadable (resolver options.tool).answer)) :
    (reach options resolver invoker sink).value.1
      = .ok (if (resolver options.tool).answer.any (·.executable) then passed
        else missingTool) := by
  rcases Check.shut_or_open (resolver options.tool).answer
    with hShut | ⟨path, hOpen⟩
  · have hAny : (resolver options.tool).answer.any (·.executable) = false := by
      rcases hShut with h | ⟨path, h⟩ <;> rw [h] <;> rfl
    rw [hAny, value_reach_diagnostic options resolver invoker hSink hShut]
    rfl
  · have hAny : (resolver options.tool).answer.any (·.executable) = true := by
      rw [hOpen]
      rfl
    rw [hAny]
    cases hJson : options.json with
    | false =>
      rw [value_reach_text options resolver invoker hSink hOpen hJson]
      rfl
    | true =>
      obtain ⟨text, rfl⟩ : Utf8.IsText path := by
        refine Classical.byContradiction fun hPath => ?_
        exact hForm ⟨hJson, path, hOpen, hPath⟩
      rw [value_reach_json options resolver invoker hSink hOpen hJson]
      rfl

/--
With a sink that takes everything a verdict is reached in either form, and
the same in both, unless the path that was found is not text: then the JSON
form fails, with nothing written, and only it does. A search in directories
whose paths are text never comes to this.
-/
theorem reach_ok_iff (sink : Sink) (hSink : sink.limit = none) :
    let answer := (resolver options.tool).answer
    let run (json : Bool) :=
      (reach { options with json := json } resolver invoker sink).value
    (∀ json, (∃ verdict, (run json).1 = .ok verdict) ↔
      ¬ (json = true ∧ Unreadable answer)) ∧
    (∀ json verdict, (run json).1 = .ok verdict →
      verdict.status = if answer.any (·.executable) then 0 else 1) ∧
    ((run true).1 = (run false).1 ↔ ¬ Unreadable answer) ∧
    (Unreadable answer → run true = (.error Report.unreadablePath, sink)) ∧
    (∀ tree entries, resolver = .searching tree entries →
      (∀ entry ∈ entries, Utf8.IsText entry) → ¬ Unreadable answer) := by
  intro answer run
  have hFails : Unreadable answer →
      run true = (.error Report.unreadablePath, sink) := by
    rintro ⟨path, hOpen, hPath⟩
    exact value_reach_unreadable { options with json := true } resolver invoker
      hOpen rfl hPath
  have hReached : ∀ json, ¬ (json = true ∧ Unreadable answer) →
      (run json).1 = .ok (if answer.any (·.executable) then passed
        else missingTool) := by
    intro json hForm
    exact value_reach_readable { options with json := json } resolver invoker
      hSink hForm
  have hFalse := hReached false (by simp)
  have hOk : ∀ json, (∃ verdict, (run json).1 = .ok verdict) ↔
      ¬ (json = true ∧ Unreadable answer) := by
    intro json
    constructor
    · rintro ⟨verdict, hVerdict⟩ ⟨rfl, hOdd⟩
      rw [hFails hOdd] at hVerdict
      cases hVerdict
    · intro hForm
      exact ⟨_, hReached json hForm⟩
  refine ⟨hOk, ?_, ?_, hFails, ?_⟩
  · intro json verdict hVerdict
    have hForm := (hOk json).mp ⟨verdict, hVerdict⟩
    rw [hReached json hForm] at hVerdict
    cases hVerdict
    split <;> rfl
  · constructor
    · intro hSame hOdd
      rw [hFails hOdd, hFalse] at hSame
      cases hSame
    · intro hText
      rw [hReached true (fun h => hText h.2), hFalse]
  · rintro tree entries rfl hEntries ⟨path, hOpen, hPath⟩
    exact hPath (Resolver.isText_of_searching hEntries hOpen)

/-- A tree with the required tool in one directory, and no other file. -/
def treeWith (directory : Bytes) : FileTree :=
  .ofEntries [⟨SearchPath.join directory (Utf8.encode "pg_config"),
    .file 0o755 ⟨[], [], false, .exited 0⟩⟩]

theorem reach_ok_iff_in_bin :
    let resolver := Resolver.searching (treeWith (Utf8.encode "bin"))
      [Utf8.encode "bin"]
    let invoker : Invoker := fun call => .error (.unknownProgram call.program)
    let run (json : Bool) :=
      (reach { Options.standard with json := json } resolver invoker
        .unlimited).value
    (∃ verdict, (run true).1 = .ok verdict) ∧ (run true).1 = (run false).1 := by
  intro resolver invoker run
  obtain ⟨hOk, -, hSame, -, hSearching⟩ :=
    reach_ok_iff .standard resolver invoker .unlimited rfl
  have hText : ¬ Unreadable (resolver "pg_config").answer := by
    refine hSearching _ _ rfl ?_
    intro entry hEntry
    rw [List.mem_singleton.mp hEntry]
    exact Utf8.isText_encode "bin"
  exact ⟨(hOk true).mpr fun h => hText h.2, hSame.mpr hText⟩

/-- With the tool in a directory FF the JSON form is all that fails. -/
theorem reach_fails_in_odd_directory :
    let resolver := Resolver.searching (treeWith [0xFF]) [[0xFF]]
    let invoker : Invoker := fun call => .error (.unknownProgram call.program)
    let run (json : Bool) :=
      (reach { Options.standard with json := json } resolver invoker
        .unlimited).value
    Sink.unlimited.limit = none ∧
      (resolver "pg_config").answer
        = some ⟨0xFF :: Utf8.encode "/pg_config", true⟩ ∧
      (¬ ∃ verdict, (run true).1 = .ok verdict) ∧
      (run false).1 = .ok passed := by
  intro resolver invoker run
  have hFails : (run true).1 = .error Report.unreadablePath := rfl
  refine ⟨rfl, rfl, ?_, rfl⟩
  rw [hFails]
  rintro ⟨verdict, hVerdict⟩
  cases hVerdict

/-! ## A sink that becomes full -/

theorem cutAt_conclude (limit : Nat) (refusal : String)
    (outcome : Except Failure Report) :
    CutAt limit refusal (conclude options .unlimited outcome)
      (conclude options (.ofLimit limit refusal) outcome) := by
  cases outcome with
  | ok report =>
    unfold conclude writeReport
    cases options.json with
    | false => exact (report.cutAt_writeText limit refusal).map fun _ => passed
    | true => exact (report.cutAt_writeJson limit refusal).map fun _ => passed
  | error failure =>
    simp only [conclude]
    split
    · exact (RequiredTool.cutAt_writeDiagnostic limit refusal _).map
        fun _ => missingTool
    · exact .of_error rfl rfl

/--
A sink with a limit changes nothing but how much of the output is kept and
whether that counts as a failure: the calls and the events are those of a
sink that takes everything, and so it is with each report by itself.
-/
theorem reach_cut (options : Options) (resolver : Resolver)
    (invoker : Invoker) (limit : Nat) (refusal : String) :
    let whole := reach options resolver invoker .unlimited
    let part := reach options resolver invoker (.ofLimit limit refusal)
    CutAt limit refusal whole.value part.value ∧
      part.calls = whole.calls ∧ part.events = whole.events ∧
      (∀ report : Report,
        CutAt limit refusal (report.writeText .unlimited)
          (report.writeText (.ofLimit limit refusal)) ∧
        CutAt limit refusal (report.writeJson .unlimited)
          (report.writeJson (.ofLimit limit refusal))) ∧
      ∀ tool : RequiredTool,
        CutAt limit refusal (tool.writeDiagnostic .unlimited)
          (tool.writeDiagnostic (.ofLimit limit refusal)) := by
  intro whole part
  refine ⟨?_, ?_, ?_, ?_, RequiredTool.cutAt_writeDiagnostic limit refusal⟩
  · show CutAt limit refusal (reach _ _ _ _).value (reach _ _ _ _).value
    rw [value_reach, value_reach]
    exact cutAt_conclude options limit refusal _
  · exact (calls_reach ..).trans (calls_reach ..).symm
  · exact (events_reach ..).trans (events_reach ..).symm
  · intro report
    exact ⟨report.cutAt_writeText limit refusal,
      report.cutAt_writeJson limit refusal⟩

end Verdict

end Preflight
