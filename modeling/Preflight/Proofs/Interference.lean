import Preflight.Proofs.Verdict
import Preflight.Proofs.Version

/-!
# What cannot be seen in a report

Most of what interpreters do leaves no trace in a report: how they end, on
which stream they print, what they print behind the first line feed, and in
a report of one line everything about the older interpreter. This is a
statement about two runs. A `Scene` is all that a run is given but its sink,
and two scenes are `Alike` if they ask for the same tool and interpreter,
get the same answer for the tool, and cannot tell the interpreters apart by
the text in front of the first line feed (`Check.glimpse`). Their runs then
leave the same bytes and the same outcome.

Two sinks of the same capacity may still differ in what they say when they
are full. `Concur` allows for that, and for nothing else.

## Main results

* `Check.announced_eq_map_glimpse` — a glimpse decides the version.
* `Concur.of_write` — the words of a sink matter to a refusal only.
* `Scene.reach_of_alike` — runs of scenes that are alike concur.
-/

namespace Preflight

/-! ## Glimpses of a program -/

namespace Check

/--
What counts of a program that is asked for its version: the text before its
first line feed, if the program can be started.
-/
def glimpse (invoker : Invoker) (flag program : String) :
    Option (List Char) :=
  match invoker ⟨program, [flag]⟩ with
  | .error _ => none
  | .ok captured => some (untilBreak captured.combined.toList)

theorem announced_eq_map_glimpse (invoker : Invoker)
    (flag program : String) :
    announced invoker flag program
      = (glimpse invoker flag program).map Version.ofLine := by
  unfold announced glimpse
  cases invoker ⟨program, [flag]⟩ with
  | error cause => rfl
  | ok captured => exact congrArg some (Version.ofOutput_eq_ofLine _)

end Check

/-! ## Sinks of the same capacity -/

section Concur

variable {α β : Type}

/--
Two writers leave the same, each in a sink of its own: the same bytes, and
the same outcome unless both were refused, each in the words of its sink.
-/
structure Concur (refusal otherRefusal : String)
    (one other : Except Failure α × Sink) : Prop where
  written : one.2.written = other.2.written
  outcome : one.1 = other.1 ∨
    one.1 = .error (.io refusal) ∧ other.1 = .error (.io otherRefusal)

variable {refusal otherRefusal : String}

/-- The words of a sink matter to a refusal only. -/
theorem Concur.of_write (limit : Option Nat) (refusal otherRefusal : String)
    (pieces : List String) :
    Concur refusal otherRefusal (Sink.write ⟨limit, refusal, []⟩ pieces)
      (Sink.write ⟨limit, otherRefusal, []⟩ pieces) := by
  have hSound : ∀ words, Sink.Sound ⟨limit, words, []⟩ := by
    intro words _ _
    exact Nat.zero_le _
  have hFits : ∀ bytes, Sink.fits ⟨limit, refusal, []⟩ bytes
      = Sink.fits ⟨limit, otherRefusal, []⟩ bytes := fun _ => rfl
  rw [Sink.write_eq_put (hSound _), Sink.write_eq_put (hSound _)]
  refine ⟨rfl, ?_⟩
  simp only [Sink.put, hFits]
  by_cases h : Sink.fits ⟨limit, otherRefusal, []⟩ (Sink.bytesOf pieces) = true
  · rw [if_pos h, if_pos h]
    exact .inl rfl
  · rw [if_neg h, if_neg h]
    exact .inr ⟨rfl, rfl⟩

theorem Concur.onceWritten {one other : Except Failure Unit × Sink}
    (h : Concur refusal otherRefusal one other) (verdict : Verdict) :
    Concur refusal otherRefusal (verdict.onceWritten one)
      (verdict.onceWritten other) := by
  refine ⟨h.written, ?_⟩
  simp only [Verdict.onceWritten]
  cases h.outcome with
  | inl hSame =>
    rw [hSame]
    exact .inl rfl
  | inr hRefused =>
    rw [hRefused.1, hRefused.2]
    exact .inr ⟨rfl, rfl⟩

theorem Concur.of_writeJson (limit : Option Nat)
    (refusal otherRefusal : String) (report : Report) :
    Concur refusal otherRefusal (report.writeJson ⟨limit, refusal, []⟩)
      (report.writeJson ⟨limit, otherRefusal, []⟩) := by
  unfold Report.writeJson
  cases report.json? with
  | none => exact ⟨rfl, .inl rfl⟩
  | some json => exact .of_write limit refusal otherRefusal [json, "\n"]

end Concur

/-! ## Two runs -/

/-- All that a run is given but its sink. -/
structure Scene where
  options : Options
  resolver : Resolver
  invoker : Invoker

namespace Scene

/-- What the resolver knows of the required tool. -/
def answer (scene : Scene) : Option ResolvedTool :=
  (scene.resolver scene.options.tool).answer

/-- What counts of the interpreter. -/
def primary (scene : Scene) : Option (List Char) :=
  Check.glimpse scene.invoker "-V" scene.options.interpreter

/-- What counts of the older interpreter, nothing if it is left alone. -/
def legacy (scene : Scene) : Option (List Char) :=
  if scene.options.noLegacy then none
  else Check.glimpse scene.invoker "-V" scene.options.legacyInterpreter

/-- What the check finds. -/
def report (scene : Scene) : Except Failure Report :=
  (Check.run scene.resolver scene.invoker scene.options.config).value

/-- What the run returns, and leaves in the sink. -/
def reach (scene : Scene) (sink : Sink) : Except Failure Verdict × Sink :=
  (Verdict.reach scene.options scene.resolver scene.invoker sink).value

/-- Nothing that counts for a report of one line tells two scenes apart. -/
structure Alike (one other : Scene) : Prop where
  tool : one.options.tool = other.options.tool
  interpreter : one.options.interpreter = other.options.interpreter
  answer : one.answer = other.answer
  primary : one.primary = other.primary

/-- What is found behind an open gate, by what counts of the interpreters. -/
theorem findings_eq (scene : Scene) (path : Bytes) :
    Check.findings scene.invoker scene.options.config path
      = ⟨path, (scene.primary.map Version.ofLine).getD .empty,
          scene.legacy.map Version.ofLine⟩ := by
  have hPrimary := Check.announced_eq_map_glimpse scene.invoker "-V"
    scene.options.interpreter
  have hLegacy := Check.announced_eq_map_glimpse scene.invoker "-V"
    scene.options.legacyInterpreter
  simp only [Check.findings, Options.config, Config.standardFlag, primary,
    legacy, hPrimary]
  by_cases hNone : scene.options.noLegacy = true
  · simp [hNone]
  · simp [hNone, hLegacy]

theorem report_eq_ok {scene : Scene} {report : Report}
    (h : scene.report = .ok report) :
    ∃ path, report = ⟨path, (scene.primary.map Version.ofLine).getD .empty,
      scene.legacy.map Version.ofLine⟩ := by
  obtain ⟨path, -, hReport⟩ := (Check.value_run_eq_ok_iff _ _ _).mp h
  exact ⟨path, hReport.trans (findings_eq scene path)⟩

section Reach

variable {one other : Scene}

/--
Scenes that are alike do the same with one sink, if the older interpreter
is not reported or is alike as well.
-/
theorem reach_congr (h : Alike one other)
    (hForm : one.options.json = other.options.json)
    (hLegacy : one.options.json = true → one.legacy = other.legacy)
    (sink : Sink) : one.reach sink = other.reach sink := by
  rcases Check.shut_or_open one.answer with hShut | ⟨path, hOpen⟩
  · have hOther : Check.Shut other.answer := by
      rw [← h.answer]
      exact hShut
    have hTool : one.options.config.requiredTool
        = other.options.config.requiredTool := by
      show RequiredTool.named one.options.tool = .named other.options.tool
      rw [h.tool]
    rw [reach, Verdict.value_reach_of_shut _ _ _ hShut, hTool]
    exact (Verdict.value_reach_of_shut _ _ _ hOther).symm
  · have hOther : other.answer = some ⟨path, true⟩ := by
      rw [← h.answer]
      exact hOpen
    have hWrite : Verdict.writeReport one.options
          (Check.findings one.invoker one.options.config path) sink
        = Verdict.writeReport other.options
          (Check.findings other.invoker other.options.config path) sink := by
      rw [findings_eq, findings_eq, h.primary, Verdict.writeReport,
        Verdict.writeReport, ← hForm]
      by_cases hJson : one.options.json = true
      · rw [hLegacy hJson]
      · -- The line of text holds neither the path nor the older version.
        rw [if_neg hJson, if_neg hJson]
        rfl
    rw [reach, Verdict.value_reach_of_open _ _ _ hOpen, hWrite]
    exact (Verdict.value_reach_of_open _ _ _ hOther).symm

/-- One scene does the same with two sinks of the same capacity. -/
theorem concur_reach (scene : Scene) (limit : Option Nat)
    (refusal otherRefusal : String) :
    Concur refusal otherRefusal (scene.reach ⟨limit, refusal, []⟩)
      (scene.reach ⟨limit, otherRefusal, []⟩) := by
  rcases Check.shut_or_open scene.answer with hShut | ⟨path, hOpen⟩
  · rw [reach, reach, Verdict.value_reach_of_shut _ _ _ hShut,
      Verdict.value_reach_of_shut _ _ _ hShut]
    exact (Concur.of_write limit refusal otherRefusal _).onceWritten _
  · rw [reach, reach, Verdict.value_reach_of_open _ _ _ hOpen,
      Verdict.value_reach_of_open _ _ _ hOpen, Verdict.writeReport,
      Verdict.writeReport]
    by_cases hJson : scene.options.json = true
    · rw [if_pos hJson, if_pos hJson]
      exact (Concur.of_writeJson limit refusal otherRefusal _).onceWritten _
    · rw [if_neg hJson, if_neg hJson]
      exact (Concur.of_write limit refusal otherRefusal _).onceWritten _

/--
Two runs of scenes that are alike, with sinks of the same capacity, return
the same and leave the same bytes: always in a report of one line, and in a
JSON object if the older interpreters, where they are asked and started,
begin with the same line too. In that object the version depends on the
interpreter alone and the older version on the older interpreter alone.
-/
theorem reach_of_alike (one other : Scene) (limit : Option Nat)
    (refusal otherRefusal : String) :
    let sink : Sink := ⟨limit, refusal, []⟩
    let otherSink : Sink := ⟨limit, otherRefusal, []⟩
    (Alike one other →
      one.options.json = false → other.options.json = false →
      Concur refusal otherRefusal (one.reach sink)
        (other.reach otherSink)) ∧
    (Alike one other →
      one.options.json = true → other.options.json = true →
      one.legacy = other.legacy →
      Concur refusal otherRefusal (one.reach sink)
        (other.reach otherSink)) ∧
    ∀ report otherReport,
      one.report = .ok report → other.report = .ok otherReport →
      (one.options.json = true → one.reach sink
        = Verdict.passed.onceWritten (report.writeJson sink)) ∧
      (one.primary = other.primary →
        report.version = otherReport.version) ∧
      (one.legacy = other.legacy →
        report.legacyVersion = otherReport.legacyVersion) := by
  intro sink otherSink
  refine ⟨?_, ?_, ?_⟩
  · intro hAlike hText hOtherText
    have hSame := reach_congr hAlike (hText.trans hOtherText.symm)
      (by simp [hText]) sink
    rw [hSame]
    exact concur_reach other limit refusal otherRefusal
  · intro hAlike hJson hOtherJson hLegacy
    have hSame := reach_congr hAlike (hJson.trans hOtherJson.symm)
      (fun _ => hLegacy) sink
    rw [hSame]
    exact concur_reach other limit refusal otherRefusal
  · intro report otherReport hReport hOtherReport
    refine ⟨?_, ?_, ?_⟩
    · intro hJson
      have hRun : (Check.run one.resolver one.invoker one.options.config).value
          = .ok report := hReport
      rw [reach, Verdict.value_reach, hRun, Verdict.conclude,
        Verdict.writeReport, if_pos hJson]
    · intro hPrimary
      obtain ⟨path, rfl⟩ := report_eq_ok hReport
      obtain ⟨otherPath, rfl⟩ := report_eq_ok hOtherReport
      show (one.primary.map Version.ofLine).getD .empty = _
      rw [hPrimary]
    · intro hLegacy
      obtain ⟨path, rfl⟩ := report_eq_ok hReport
      obtain ⟨otherPath, rfl⟩ := report_eq_ok hOtherReport
      show one.legacy.map Version.ofLine = _
      rw [hLegacy]

/--
Two interpreters that announce 3.8.10, one of them with an exit code, on the
other stream and with more to say, next to older ones that differ likewise.
-/
theorem reach_of_alike_interpreters :
    let found : Resolver := fun _ =>
      ⟨some ⟨Utf8.encode "/usr/bin/pg_config", true⟩, []⟩
    let noisy (json : Bool) : Scene :=
      ⟨{ Options.standard with json := json, debug := true }, found,
        fun call => .ok (if call.program = "python" then
          ⟨some 2, "", "Python 3.8.10\nwarning\n"⟩
          else ⟨none, "Python 2.7", ".18\n"⟩)⟩
    let quiet (json : Bool) : Scene :=
      ⟨{ Options.standard with json := json, noLegacy := !json }, found,
        fun call => .ok (if call.program = "python" then
          ⟨some 0, "Python 3.8", ".10"⟩
          else ⟨some 0, "Python 2.7.18\n", ""⟩)⟩
    (∀ json, Alike (noisy json) (quiet json)) ∧
      (∀ json, Concur "full" "no space"
        ((noisy json).reach ⟨some 12, "full", []⟩)
        ((quiet json).reach ⟨some 12, "no space", []⟩)) ∧
      ∃ report otherReport,
        (noisy true).report = .ok report ∧
        (quiet true).report = .ok otherReport ∧
        report.version = otherReport.version ∧
        report.legacyVersion = otherReport.legacyVersion := by
  intro found noisy quiet
  have hPrimary : ∀ json, (noisy json).primary = (quiet json).primary := by
    intro json
    show some (untilBreak ("" ++ "Python 3.8.10\nwarning\n").toList)
      = some (untilBreak ("Python 3.8" ++ ".10").toList)
    decide +kernel
  have hLegacy : (noisy true).legacy = (quiet true).legacy := by
    show some (untilBreak ("Python 2.7" ++ ".18\n").toList)
      = some (untilBreak ("Python 2.7.18\n" ++ "").toList)
    decide +kernel
  have hAlike : ∀ json, Alike (noisy json) (quiet json) := fun json =>
    ⟨rfl, rfl, rfl, hPrimary json⟩
  obtain ⟨hText, -, -⟩ :=
    reach_of_alike (noisy false) (quiet false) (some 12) "full" "no space"
  obtain ⟨-, hJson, hReport⟩ :=
    reach_of_alike (noisy true) (quiet true) (some 12) "full" "no space"
  have hRun := Check.value_run_of_open found (noisy true).invoker
    (noisy true).options.config rfl
  have hOtherRun := Check.value_run_of_open found (quiet true).invoker
    (quiet true).options.config rfl
  obtain ⟨-, hVersion, hOlder⟩ := hReport _ _ hRun hOtherRun
  refine ⟨hAlike, ?_, _, _, hRun, hOtherRun, hVersion (hPrimary true),
    hOlder hLegacy⟩
  intro json
  cases json with
  | false => exact hText (hAlike false) rfl rfl
  | true => exact hJson (hAlike true) rfl rfl hLegacy

end Reach

end Scene

end Preflight
