import Preflight.Proofs.Check
import Preflight.Proofs.Token
import Preflight.Proofs.Verdict

/-!
# Versions as they are reported

A version that was read off an output is at most three characters long and
has no blank in it, whatever the output was, and every such text is the
version of some output, above all of itself. So reading a version once more
changes nothing.

That no blank is in a version is owed to the division into fields, not to the
cut behind three characters, and it is more than that there is no space: every
line break is a blank. The line that reports a version is therefore one line,
by any account of what ends a line.

## Main results

* `Version.printable_ofOutput`, `Version.ofOutput_of_printable` — reading a
  version is a retraction onto the printable ones.
* `Check.printable_of_run` — all versions of a report are printable.
* `Version.ofOutput_retracts` — both, and what is written of such a report.
-/

namespace Preflight

namespace Version

/-- A version that can be reported: short, and without a blank. -/
structure Printable (version : Version) : Prop where
  short : version.text.toList.length ≤ 3
  solid : ∀ c ∈ version.text.toList, isBlank c = false

theorem printable_empty : empty.Printable := ⟨by simp [empty], by simp [empty]⟩

/-- A field, or the front of one, has no blank in it. -/
theorem printable_ofLine (line : List Char) : (ofLine line).Printable := by
  rcases allBlank_or_token line with hBlank | ⟨token, hToken⟩
  · rw [ofLine_of_allBlank hBlank]
    exact printable_empty
  · have hText := ofLine_of_token hToken
    have hField := isField_of_lineToken? (lineToken?_of_token hToken)
    constructor
    · rw [hText, List.length_take]
      omega
    · intro c hc
      rw [hText] at hc
      exact hField.solid c (List.mem_of_mem_take hc)

theorem printable_ofOutput (output : String) : (ofOutput output).Printable := by
  rw [ofOutput_eq_ofLine]
  exact printable_ofLine _

/-- A printable version, taken as an output, is a line of one field at most. -/
theorem ofOutput_of_printable {version : Version} (h : version.Printable) :
    ofOutput version.text = version := by
  have hBreak : '\n' ∉ version.text.toList := by
    intro hMem
    exact absurd (h.solid _ hMem) (by decide)
  have hText : (ofLine version.text.toList).text.toList
      = version.text.toList := by
    by_cases hEmpty : version.text.toList = []
    · rw [hEmpty]
      rfl
    · have hToken : IsToken version.text.toList version.text.toList :=
        .inr ⟨[], [], by simp, nofun, nofun, hEmpty, h.solid⟩
      have hWidth := h.short
      rw [ofLine_of_token hToken]
      exact List.take_of_length_le (by omega)
  rw [ofOutput_eq_ofLine, untilBreak_of_not_mem hBreak]
  obtain ⟨text⟩ := version
  exact congrArg mk (String.toList_inj.mp hText)

theorem exists_ofOutput_iff {version : Version} :
    (∃ output, ofOutput output = version) ↔ version.Printable := by
  constructor
  · rintro ⟨output, rfl⟩
    exact printable_ofOutput output
  · intro h
    exact ⟨version.text, ofOutput_of_printable h⟩

end Version

/-! ## Reports of a check -/

namespace Check

/-- A program that is asked announces a printable version, or none. -/
theorem printable_of_announced {invoker : Invoker} {flag program : String}
    {version : Version} (h : announced invoker flag program = some version) :
    version.Printable := by
  unfold announced at h
  cases hStart : invoker ⟨program, [flag]⟩ with
  | error cause =>
    rw [hStart] at h
    cases h
  | ok captured =>
    rw [hStart] at h
    cases h
    exact Version.printable_ofOutput _

/-- All versions of a report are printable, those not announced included. -/
theorem printable_of_run {resolver : Resolver} {invoker : Invoker}
    {config : Config} {report : Report}
    (h : (run resolver invoker config).value = .ok report) :
    report.version.Printable ∧
      ∀ version, report.legacyVersion = some version → version.Printable := by
  obtain ⟨path, -, rfl⟩ := (value_run_eq_ok_iff _ _ _).mp h
  constructor
  · show ((announced invoker config.versionFlag
      config.interpreter).getD .empty).Printable
    cases hVersion : announced invoker config.versionFlag
        config.interpreter with
    | none => exact Version.printable_empty
    | some version => exact printable_of_announced hVersion
  · intro version hLegacy
    obtain ⟨program, -, hVersion⟩ := Option.bind_eq_some_iff.mp hLegacy
    exact printable_of_announced hVersion

end Check

/-! ## One line -/

/-- The characters that end a line, by one account or another. -/
def lineBreaks : List Char :=
  ['\n', '\r', '\x0B', '\x0C', '\u0085', '\u2028', '\u2029']

theorem allBlank_lineBreaks : AllBlank lineBreaks := by decide

namespace Report

/-- The line that a report is as a text. -/
def textLine (report : Report) : String :=
  "Using python " ++ report.version.text ++ "."

theorem lineBreak_not_mem_textLine {report : Report}
    (h : report.version.Printable) :
    ∀ c ∈ lineBreaks, c ∉ report.textLine.toList := by
  intro c hBreak
  have hWords : ∀ d ∈ lineBreaks,
      d ∉ "Using python ".toList ∧ d ∉ ".".toList := by simp [lineBreaks]
  have hVersion : c ∉ report.version.text.toList := by
    intro hMem
    have hSolid := h.solid c hMem
    rw [allBlank_lineBreaks c hBreak] at hSolid
    cases hSolid
  rw [textLine, String.toList_append, String.toList_append, List.mem_append,
    List.mem_append]
  rintro ((hFront | hMem) | hEnd)
  · exact (hWords c hBreak).1 hFront
  · exact hVersion hMem
  · exact (hWords c hBreak).2 hEnd

/-- The line and its end are all that is written. -/
theorem writeText_eq (report : Report) (refusal : String) (written : Bytes) :
    report.writeText ⟨none, refusal, written⟩
      = (.ok (), ⟨none, refusal,
          written ++ Utf8.encode (report.textLine ++ "\n")⟩) := by
  rw [writeText, Sink.write_of_unlimited rfl, Verdict.bytesOf_textPieces,
    textLine]
  simp [String.append_assoc]

end Report

/--
Reading versions is a retraction onto the texts of at most three characters
without a blank: every version that is read is one, each of them is read off
itself, and so they are all the versions there are and are read again as they
are. A report of a check that passed is written as one line, which ends with
a line feed and has no other line break of any kind.
-/
theorem Version.ofOutput_retracts :
    (∀ output, (ofOutput output).text.toList.length ≤ 3 ∧
      ∀ c ∈ (ofOutput output).text.toList, isBlank c = false) ∧
    (∀ text : String, text.toList.length ≤ 3 →
      (∀ c ∈ text.toList, isBlank c = false) → (ofOutput text).text = text) ∧
    (∀ output, ofOutput (ofOutput output).text = ofOutput output) ∧
    (∀ version, (∃ output, ofOutput output = version) ↔ version.Printable) ∧
    ∀ resolver invoker config report,
      (Check.run resolver invoker config).value = .ok report →
      ∀ refusal written, ∃ line : String,
        report.writeText ⟨none, refusal, written⟩
          = (.ok (), ⟨none, refusal,
              written ++ Utf8.encode (line ++ "\n")⟩) ∧
        ∀ c ∈ ['\n', '\r', '\x0B', '\x0C', '\u0085', '\u2028', '\u2029'],
          c ∉ line.toList := by
  refine ⟨?_, ?_, ?_, fun _ => exists_ofOutput_iff, ?_⟩
  · intro output
    have hPrintable := printable_ofOutput output
    exact ⟨hPrintable.short, hPrintable.solid⟩
  · intro text hShort hSolid
    have hPrintable : Printable ⟨text⟩ := ⟨hShort, hSolid⟩
    exact congrArg Version.text (ofOutput_of_printable hPrintable)
  · intro output
    exact ofOutput_of_printable (printable_ofOutput output)
  · intro resolver invoker config report hRun refusal written
    have hPrintable := (Check.printable_of_run hRun).1
    exact ⟨report.textLine, report.writeText_eq refusal written,
      Report.lineBreak_not_mem_textLine hPrintable⟩

/-- An output with a line break of another kind on either side of a field. -/
theorem Version.ofOutput_retracts_among_line_breaks :
    let resolver : Resolver := fun _ =>
      ⟨some ⟨Utf8.encode "/usr/bin/pg_config", true⟩, []⟩
    let invoker : Invoker := fun _ =>
      .ok ⟨some 1, "\x0BPython\u0085", "3.1\u2029.4\r\n2.7"⟩
    (Version.ofOutput "3.1").text = "3.1" ∧
      ∃ report, (Check.run resolver invoker .standard).value = .ok report ∧
        report.version.text = "3.1" ∧
        ∃ line : String,
          report.writeText ⟨none, "", []⟩
            = (.ok (), ⟨none, "", Utf8.encode (line ++ "\n")⟩) ∧
          ∀ c ∈ ['\n', '\r', '\x0B', '\x0C', '\u0085', '\u2028', '\u2029'],
            c ∉ line.toList := by
  intro resolver invoker
  obtain ⟨-, hSelf, -, -, hLine⟩ := Version.ofOutput_retracts
  have hRun := Check.value_run_of_open resolver invoker .standard rfl
  have hField : IsField "3.1".toList := by decide
  refine ⟨hSelf "3.1" (by decide) hField.solid, _, hRun, ?_,
    hLine resolver invoker .standard _ hRun "" []⟩
  show (Version.ofOutput
    ("\x0BPython\u0085" ++ "3.1\u2029.4\r\n2.7")).text = "3.1"
  decide +kernel

end Preflight
