import Preflight.Program
import Preflight.Proofs.Verdict

/-!
# What the exit status tells

The exit status of the program has three values, and each of them can be
told from what the program is given. It is 2 if the command line is at
fault, 0 if a text was asked for or the required tool can be used, and 1 for
everything else: either the tool cannot be used, which the output says, or
its path cannot be written as JSON, which the error stream says.

The interpreters are started by then and have no say in it. Neither do their
names, the environment beyond what settings fall back on and the search
path, or anything of the file tree but what the tool's name resolves to.

## Main results

* `Program.missing_or_reportable` — what can be the case once the options
  are known, and `Program.run_cases` before that.
* `Program.run_status` — the status of every run.
-/

namespace Preflight

namespace Halt

/-- A command line at fault: reading it ended, and not with an inquiry. -/
def IsUsageError (halt : Halt) : Prop := ∀ inquiry, halt ≠ .inquiry inquiry

theorem isFault_iff {halt : Halt} :
    halt.isFault = true ↔ halt.IsUsageError := by
  cases halt <;> simp [isFault, IsUsageError]

theorem isUsageError_or_inquiry (halt : Halt) :
    halt.IsUsageError ∨ ∃ inquiry, halt = .inquiry inquiry := by
  by_cases hInquiry : ∃ inquiry, halt = .inquiry inquiry
  · exact .inr hInquiry
  · exact .inl fun inquiry h => hInquiry ⟨inquiry, h⟩

end Halt

namespace Program

/-! ## The error stream -/

/-- What is told next on the error stream begins a line. -/
def AtLineStart (told : String) : Prop :=
  told = "" ∨ ∃ front, told = front ++ "\n"

theorem atLineStart_join (messages : List String) :
    AtLineStart (String.join (messages.map logLine)) := by
  induction messages with
  | nil => exact .inl rfl
  | cons message rest ih =>
    right
    rw [List.map_cons, String.join_cons]
    cases ih with
    | inl hEmpty =>
      rw [hEmpty, String.append_empty]
      exact ⟨_, rfl⟩
    | inr hFront =>
      obtain ⟨front, hFront⟩ := hFront
      exact ⟨logLine message ++ front, by rw [hFront, String.append_assoc]⟩

/-- Events are told in whole lines. -/
theorem atLineStart_log (environment : Environment) (options : Options)
    (events : List Event) : AtLineStart (log environment options events) := by
  unfold log
  by_cases hShown : showsEvents environment options = true
  · rw [if_pos hShown]
    exact atLineStart_join _
  · rw [if_neg hShown]
    exact .inl rfl

/-! ## Once the options are known -/

section Options

variable (tree : FileTree) (environment : Environment) (options : Options)

/-- The files that the required tool's name resolves to: one at most. -/
def Found (path : Bytes) : Prop :=
  Resolver.Resolves tree (SearchPath.entries environment.searchPath)
    options.tool path

/-- The tool can be used, and its path can be written in the form asked for. -/
def Reportable : Prop :=
  ∃ path, Found tree environment options path ∧
    (options.json = true → Utf8.IsText path)

/-- The tool can be used, and its path cannot be written as JSON. -/
def Unreportable : Prop :=
  ∃ path, Found tree environment options path ∧ options.json = true ∧
    ¬ Utf8.IsText path

/-- The resolver that the program uses. -/
def resolver : Resolver := (Machine.mk tree environment.searchPath).resolver

/-- The report that the program makes, whoever starts the interpreters. -/
def reporting (started : Invoker) : Traced (Except Failure Verdict × Sink) :=
  Verdict.reach options (resolver tree environment) started .unlimited

variable {tree environment options} {path : Bytes}

theorem answer_iff_found :
    (resolver tree environment options.tool).answer = some ⟨path, true⟩ ↔
      Found tree environment options path :=
  Resolver.searching_iff_resolves

theorem Found.eq {other : Bytes} (h : Found tree environment options path)
    (hOther : Found tree environment options other) : other = path := by
  have hAnswer := answer_iff_found.mpr h
  rw [answer_iff_found.mpr hOther] at hAnswer
  cases hAnswer
  rfl

theorem missing_or_reportable (tree : FileTree) (environment : Environment)
    (options : Options) :
    (∀ path, ¬ Found tree environment options path) ∨
      Reportable tree environment options ∨
      Unreportable tree environment options := by
  by_cases hMissing : ∀ path, ¬ Found tree environment options path
  · exact .inl hMissing
  · obtain ⟨path, hFound⟩ := Classical.not_forall_not.mp hMissing
    by_cases hForm : options.json = true → Utf8.IsText path
    · exact .inr (.inl ⟨path, hFound, hForm⟩)
    · exact .inr (.inr ⟨path, hFound, Classical.not_imp.mp hForm⟩)

theorem reportable_congr {otherTree : FileTree}
    {otherEnvironment : Environment} {otherOptions : Options}
    (hJson : otherOptions.json = options.json)
    (hFound : ∀ path, Found otherTree otherEnvironment otherOptions path ↔
      Found tree environment options path) :
    Reportable otherTree otherEnvironment otherOptions ↔
      Reportable tree environment options := by
  unfold Reportable
  simp only [hJson, hFound]

variable (started : Invoker)

/-- A tool that can be used and reported makes the check pass. -/
theorem value_reporting_of_reportable
    (h : Reportable tree environment options) :
    (reporting tree environment options started).value.1 = .ok .passed := by
  obtain ⟨path, hFound, hForm⟩ := h
  have hAnswer := answer_iff_found.mpr hFound
  have hReadable : ¬ (options.json = true ∧
      Verdict.Unreadable (resolver tree environment options.tool).answer) := by
    rintro ⟨hJson, other, hOther, hOdd⟩
    rw [hFound.eq (answer_iff_found.mp hOther)] at hOdd
    exact hOdd (hForm hJson)
  show (Verdict.reach options _ started .unlimited).value.1 = _
  rw [Verdict.value_reach_readable options _ started rfl hReadable, hAnswer]
  rfl

/-- A path that is not text keeps a JSON object from being written. -/
theorem value_reporting_of_unreportable
    (h : Unreportable tree environment options) :
    (reporting tree environment options started).value
      = (.error Report.unreadablePath, .unlimited) := by
  obtain ⟨path, hFound, hJson, hOdd⟩ := h
  exact Verdict.value_reach_unreadable options _ started
    (answer_iff_found.mpr hFound) hJson hOdd

/-- Without a tool that can be used the diagnostic is all there is. -/
theorem value_reporting_of_missing
    (h : ∀ path, ¬ Found tree environment options path) :
    (reporting tree environment options started).value
      = (.ok .missingTool, ⟨none, "",
          Utf8.encode ("No " ++ options.tool ++ " found in your path.\n"
            ++ RequiredTool.standardHint ++ "\n")⟩) := by
  have hShut : Check.Shut (resolver tree environment options.tool).answer := by
    refine (Check.shut_or_open _).resolve_right ?_
    rintro ⟨path, hOpen⟩
    exact h path (answer_iff_found.mp hOpen)
  exact Verdict.value_reach_diagnostic options _ started rfl hShut

theorem status_of_reportable (h : Reportable tree environment options) :
    statusOf (reporting tree environment options started).value.1 = 0 := by
  rw [value_reporting_of_reportable started h]
  rfl

theorem status_of_not_reportable
    (h : ¬ Reportable tree environment options) :
    statusOf (reporting tree environment options started).value.1 = 1 := by
  rcases missing_or_reportable tree environment options
    with hMissing | hReportable | hUnreportable
  · rw [value_reporting_of_missing started hMissing]
    rfl
  · exact absurd hReportable h
  · rw [value_reporting_of_unreportable started hUnreportable]
    rfl

end Options

/-! ## Whole runs -/

section Runs

variable {tree : FileTree} {environment : Environment}
  {arguments : List Bytes} {options : Options} {halt : Halt}

/-- A command line at fault ends the run before anything is done. -/
theorem run_of_fault
    (h : Options.read environment.fallbacks arguments = .error halt)
    (hFault : halt.IsUsageError) :
    let exit := run tree environment arguments .unlimited
    exit.status = 2 ∧ exit.output = [] ∧ exit.calls = [] := by
  intro exit
  have hIsFault := Halt.isFault_iff.mpr hFault
  have hExit : exit = runHalt environment.fallbacks halt .unlimited :=
    run_halt h _
  rw [hExit, runHalt, if_pos hIsFault, Halt.status, if_pos hIsFault]
  exact ⟨rfl, rfl, rfl⟩

theorem status_run_of_inquiry {inquiry : Inquiry}
    (h : Options.read environment.fallbacks arguments
      = .error (.inquiry inquiry)) :
    (run tree environment arguments .unlimited).status = 0 := by
  rw [run_halt h]
  rfl

/-- What is left behind if there are options, given what became of the report. -/
theorem run_of_options {outcome : Except Failure Verdict} {sink : Sink}
    (h : Options.read environment.fallbacks arguments = .ok options)
    (hValue : (reporting tree environment options
      (Machine.mk tree environment.searchPath).invoker).value
        = (outcome, sink)) :
    let exit := run tree environment arguments .unlimited
    exit.output = sink.written ∧
      ∃ before, AtLineStart before ∧
        exit.errors = before ++ failureLine outcome := by
  intro exit
  let report := reporting tree environment options
    (Machine.mk tree environment.searchPath).invoker
  have hExit : exit = ⟨statusOf report.value.1, report.value.2.written,
      log environment options report.events ++ failureLine report.value.1,
      report.calls⟩ := run_options h _
  rw [hExit, show report.value = _ from hValue]
  exact ⟨rfl, _, atLineStart_log environment options report.events, rfl⟩

theorem status_run_of_options (tree : FileTree)
    (h : Options.read environment.fallbacks arguments = .ok options) :
    (run tree environment arguments .unlimited).status
      = statusOf (reporting tree environment options
          (Machine.mk tree environment.searchPath).invoker).value.1 := by
  rw [run_options h]
  rfl

theorem status_run_of_reportable
    (h : Options.read environment.fallbacks arguments = .ok options)
    (hTool : Reportable tree environment options) :
    (run tree environment arguments .unlimited).status = 0 :=
  (status_run_of_options tree h).trans (status_of_reportable _ hTool)

theorem status_run_of_not_reportable
    (h : Options.read environment.fallbacks arguments = .ok options)
    (hTool : ¬ Reportable tree environment options) :
    (run tree environment arguments .unlimited).status = 1 :=
  (status_run_of_options tree h).trans (status_of_not_reportable _ hTool)

/-- Every run is one of four kinds, and the kind decides the status. -/
theorem run_cases (tree : FileTree) (environment : Environment)
    (arguments : List Bytes) :
    let status := (run tree environment arguments .unlimited).status
    let read := Options.read environment.fallbacks arguments
    (∃ halt, read = .error halt ∧ halt.IsUsageError ∧ status = 2) ∨
    (∃ inquiry, read = .error (.inquiry inquiry) ∧ status = 0) ∨
    (∃ options, read = .ok options ∧
      Reportable tree environment options ∧ status = 0) ∨
    ∃ options, read = .ok options ∧
      ¬ Reportable tree environment options ∧ status = 1 := by
  intro status read
  cases hRead : read with
  | error halt =>
    rcases halt.isUsageError_or_inquiry with hFault | ⟨inquiry, rfl⟩
    · exact .inl ⟨halt, rfl, hFault, (run_of_fault hRead hFault).1⟩
    · exact .inr (.inl ⟨inquiry, rfl, status_run_of_inquiry hRead⟩)
  | ok options =>
    by_cases hTool : Reportable tree environment options
    · exact .inr (.inr (.inl
        ⟨options, rfl, hTool, status_run_of_reportable hRead hTool⟩))
    · exact .inr (.inr (.inr
        ⟨options, rfl, hTool, status_run_of_not_reportable hRead hTool⟩))

theorem status_run_eq_two_iff :
    (run tree environment arguments .unlimited).status = 2 ↔
      ∃ halt, Options.read environment.fallbacks arguments = .error halt ∧
        halt.IsUsageError := by
  constructor
  · intro hTwo
    simpa [hTwo] using run_cases tree environment arguments
  · rintro ⟨halt, hRead, hFault⟩
    exact (run_of_fault hRead hFault).1

theorem status_run_eq_zero_iff :
    (run tree environment arguments .unlimited).status = 0 ↔
      (∃ inquiry, Options.read environment.fallbacks arguments
        = .error (.inquiry inquiry)) ∨
      ∃ options, Options.read environment.fallbacks arguments = .ok options ∧
        Reportable tree environment options := by
  constructor
  · intro hZero
    simpa [hZero] using run_cases tree environment arguments
  · rintro (⟨inquiry, hRead⟩ | ⟨options, hRead, hTool⟩)
    · exact status_run_of_inquiry hRead
    · exact status_run_of_reportable hRead hTool

theorem status_run_eq_one_iff :
    (run tree environment arguments .unlimited).status = 1 ↔
      ∃ options, Options.read environment.fallbacks arguments = .ok options ∧
        ¬ Reportable tree environment options := by
  constructor
  · intro hOne
    simpa [hOne] using run_cases tree environment arguments
  · rintro ⟨options, hRead, hTool⟩
    exact status_run_of_not_reportable hRead hTool

/-- What a run with status 1 leaves behind. -/
theorem run_of_not_reportable
    (h : Options.read environment.fallbacks arguments = .ok options)
    (hTool : ¬ Reportable tree environment options) :
    let exit := run tree environment arguments .unlimited
    (∀ path, ¬ Found tree environment options path) ∧
        exit.output = Utf8.encode ("No " ++ options.tool
          ++ " found in your path.\n" ++ RequiredTool.standardHint ++ "\n") ∨
      Unreportable tree environment options ∧ exit.output = [] ∧
        ∃ before, AtLineStart before ∧ exit.errors = before
          ++ "Error: path contains invalid UTF-8 characters\n" := by
  intro exit
  rcases missing_or_reportable tree environment options
    with hMissing | hReportable | hUnreportable
  · have hExit := run_of_options h (value_reporting_of_missing _ hMissing)
    exact .inl ⟨hMissing, hExit.1⟩
  · exact absurd hReportable hTool
  · have hExit := run_of_options h
      (value_reporting_of_unreportable _ hUnreportable)
    exact .inr ⟨hUnreportable, hExit⟩

/-- With the same options, whoever starts the interpreters. -/
theorem status_reporting_eq
    (h : Options.read environment.fallbacks arguments = .ok options)
    (started : Invoker) :
    statusOf (reporting tree environment options started).value.1
      = (run tree environment arguments .unlimited).status := by
  by_cases hTool : Reportable tree environment options
  · rw [status_of_reportable started hTool, status_run_of_reportable h hTool]
  · rw [status_of_not_reportable started hTool,
      status_run_of_not_reportable h hTool]

/-- Two runs whose tool is found alike, whatever else is different. -/
theorem status_run_congr {otherTree : FileTree}
    {otherEnvironment : Environment} {otherArguments : List Bytes}
    {otherOptions : Options}
    (h : Options.read environment.fallbacks arguments = .ok options)
    (hOther : Options.read otherEnvironment.fallbacks otherArguments
      = .ok otherOptions)
    (hJson : otherOptions.json = options.json)
    (hFound : ∀ path, Found otherTree otherEnvironment otherOptions path ↔
      Found tree environment options path) :
    (run otherTree otherEnvironment otherArguments .unlimited).status
      = (run tree environment arguments .unlimited).status := by
  have hTools := reportable_congr hJson hFound
  by_cases hTool : Reportable tree environment options
  · rw [status_run_of_reportable h hTool,
      status_run_of_reportable hOther (hTools.mpr hTool)]
  · rw [status_run_of_not_reportable h hTool,
      status_run_of_not_reportable hOther (mt hTools.mp hTool)]

end Runs

/--
The exit status of every run, with an output that takes everything. It is 2
exactly if the command line is at fault, and then nothing is written and no
program is started; 0 exactly if a text was asked for, or the required tool
can be used and reported; and 1 otherwise, with the diagnostic as the whole
output, or with no output and a failure on the error stream. Interpreters
have no say in it: neither who starts them, nor anything that leaves the
form asked for and the files that the tool's name resolves to as they are.
-/
theorem run_status (tree : FileTree) (environment : Environment)
    (arguments : List Bytes) :
    let exit := run tree environment arguments .unlimited
    let read := Options.read environment.fallbacks arguments
    (exit.status = 2 ↔ ∃ halt, read = .error halt ∧ halt.IsUsageError) ∧
    (exit.status = 2 → exit.output = [] ∧ exit.calls = []) ∧
    (exit.status = 0 ↔ (∃ inquiry, read = .error (.inquiry inquiry)) ∨
      ∃ options, read = .ok options ∧
        Reportable tree environment options) ∧
    (exit.status = 0 ∨ exit.status = 1 ∨ exit.status = 2) ∧
    (exit.status = 1 → ∃ options, read = .ok options ∧
      ((∀ path, ¬ Found tree environment options path) ∧
          exit.output = Utf8.encode ("No " ++ options.tool
            ++ " found in your path.\n" ++ RequiredTool.standardHint ++ "\n") ∨
        Unreportable tree environment options ∧ exit.output = [] ∧
          ∃ before, AtLineStart before ∧ exit.errors = before
            ++ "Error: path contains invalid UTF-8 characters\n")) ∧
    ∀ options, read = .ok options →
      (∀ started, statusOf (reporting tree environment options started).value.1
        = exit.status) ∧
      ∀ otherTree otherEnvironment otherArguments otherOptions,
        Options.read otherEnvironment.fallbacks otherArguments
          = .ok otherOptions →
        otherOptions.json = options.json →
        (∀ path, Found otherTree otherEnvironment otherOptions path ↔
          Found tree environment options path) →
        (run otherTree otherEnvironment otherArguments .unlimited).status
          = exit.status := by
  intro exit read
  refine ⟨status_run_eq_two_iff, ?_, status_run_eq_zero_iff, ?_, ?_, ?_⟩
  · intro hTwo
    obtain ⟨halt, hRead, hFault⟩ := status_run_eq_two_iff.mp hTwo
    exact (run_of_fault hRead hFault).2
  · rcases run_cases tree environment arguments
      with ⟨-, -, -, hTwo⟩ | ⟨-, -, hZero⟩ | ⟨-, -, -, hZero⟩
        | ⟨-, -, -, hOne⟩
    · exact .inr (.inr hTwo)
    · exact .inl hZero
    · exact .inl hZero
    · exact .inr (.inl hOne)
  · intro hOne
    obtain ⟨options, hRead, hTool⟩ := status_run_eq_one_iff.mp hOne
    exact ⟨options, hRead, run_of_not_reportable hRead hTool⟩
  · intro options hRead
    refine ⟨status_reporting_eq hRead, ?_⟩
    intro otherTree otherEnvironment otherArguments otherOptions hOther
    exact status_run_congr hRead hOther

/-- With the tool in a directory FF each status comes up. -/
theorem run_status_of_odd_directory :
    let environment : Environment := ⟨fun _ => none, some [0xFF], none⟩
    let exit (argument : String) := run (Verdict.treeWith [0xFF]) environment
      [Utf8.encode argument] .unlimited
    ((exit "--bogus").status = 2 ∧ (exit "--bogus").output = []) ∧
      (exit "--no-legacy").status = 0 ∧
      (exit "--json").status = 1 ∧
        ∃ before, AtLineStart before ∧ (exit "--json").errors
          = before ++ "Error: path contains invalid UTF-8 characters\n" := by
  intro environment exit
  have hFound : ∀ options : Options, options.tool = "pg_config" →
      Found (Verdict.treeWith [0xFF]) environment options
        (0xFF :: Utf8.encode "/pg_config") := by
    intro options hTool
    rw [← answer_iff_found, hTool]
    rfl
  have hBogus := run_status (Verdict.treeWith [0xFF]) environment
    [Utf8.encode "--bogus"]
  have hTwo : (exit "--bogus").status = 2 :=
    hBogus.1.mpr ⟨.unknownArgument "--bogus", rfl, nofun⟩
  have hText := run_status (Verdict.treeWith [0xFF]) environment
    [Utf8.encode "--no-legacy"]
  have hZero : (exit "--no-legacy").status = 0 :=
    hText.2.2.1.mpr (.inr ⟨{ Options.standard with noLegacy := true }, rfl, _,
      hFound _ rfl, nofun⟩)
  have hJson := run_status (Verdict.treeWith [0xFF]) environment
    [Utf8.encode "--json"]
  have hOne : (exit "--json").status = 1 := rfl
  obtain ⟨options, hRead, hCase⟩ := hJson.2.2.2.2.1 hOne
  obtain rfl : { Options.standard with json := true } = options := by
    cases hRead
    rfl
  refine ⟨⟨hTwo, (hBogus.2.1 hTwo).1⟩, hZero, hOne, ?_⟩
  rcases hCase with ⟨hMissing, -⟩ | ⟨-, -, hErrors⟩
  · exact absurd (hFound _ rfl) (hMissing _)
  · exact hErrors
end Program

end Preflight
