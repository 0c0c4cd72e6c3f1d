import Preflight.Program
import Preflight.Proofs.CommandLine.Options

/-!
# The argument that decides

A command line may have several faults, and ask for a text besides. What
comes of it is settled by the first argument that cannot be read on from:
`Decides given argument halt` holds if `argument` is of a form that ends the
reading with `halt` where the options in `given` are settled. Nothing of
what follows is looked at, and nothing of the environment.

A setting whose value is still to come decides nothing, even if it was
given before: with a value it is given twice, without one it lacks it, so
the next argument has a say. By `Options.decides_iff` no form is missing:
where reading ends alike whatever follows, the argument decides.

## Main results

* `Reader.take_eq_error_iff` — the words that a reader stops at.
* `Options.decides_iff` — an argument decides if no continuation and no
  environment makes a difference.
* `Program.decided_by_argument` — what comes of the program then.
-/

namespace Preflight

/-! ## Words that a reader stops at -/

/-- What a word ends the reading with, with the options in `given` settled. -/
inductive Word.Stops (given : List Name) : Word → Halt → Prop
  | inquiry (q : Inquiry) : Stops given (.inquiry q) (.inquiry q)
  | unknown (shown : String) :
    Stops given (.unknown shown) (.unknownArgument shown)
  | plain (text : Bytes) :
    Stops given (.plain text) (.unknownArgument (Utf8.decodeLossy text))
  | overfull (option : Name) (value : Bytes) :
    Stops given (.overfull option value)
      (.excessValue (Utf8.decodeLossy value) option)
  | flag {f : Flag} :
    .flag f ∈ given → Stops given (.flag f) (.repeated (.flag f))
  | setting {s : Setting} (value : Bytes) :
    .setting s ∈ given →
      Stops given (.setting s (some value)) (.repeated (.setting s))
  | noText {s : Setting} {value : Bytes} :
    .setting s ∉ given → ¬ Utf8.IsText value →
      Stops given (.setting s (some value)) .invalidText

/-- An argument that settles what a command line comes to. -/
def Decides (given : List Name) (argument : Bytes) (halt : Halt) : Prop :=
  ∃ word, Word.Form argument word ∧ word.Stops given halt

namespace Reader

variable {given : Given} {names : List Name} {halt : Halt}

theorem take_eq_error_iff (hGiven : ∀ name, given.Has name ↔ name ∈ names)
    {word : Word} :
    take ⟨given, none⟩ word = .error halt ↔ word.Stops names halt := by
  constructor
  · intro h
    cases word with
    | terminator => cases h
    | unknown shown =>
      cases h
      exact .unknown shown
    | plain text =>
      cases h
      exact .plain text
    | overfull option value =>
      cases h
      exact .overfull option value
    | inquiry q =>
      cases h
      exact .inquiry q
    | flag f =>
      rw [take_flag] at h
      obtain ⟨hHas, rfl⟩ := Given.addFlag_eq_error_iff.mp (map_eq_error h)
      exact .flag ((hGiven _).mp hHas)
    | setting s value =>
      cases value with
      | none => cases h
      | some value =>
        rw [take_glued] at h
        rcases Given.addValue_eq_error_iff.mp (map_eq_error h) with
          ⟨hHas, rfl⟩ | ⟨hNew, hOdd, rfl⟩
        · exact .setting value ((hGiven _).mp hHas)
        · exact .noText (mt (hGiven _).mpr hNew) hOdd
  · intro h
    cases h with
    | inquiry q => rfl
    | unknown shown => rfl
    | plain text => rfl
    | overfull option value => rfl
    | flag hMem =>
      rw [take_flag, Given.addFlag_eq_error_iff.mpr ⟨(hGiven _).mpr hMem, rfl⟩]
      rfl
    | setting value hMem =>
      rw [take_glued, Given.addValue_eq_error_iff.mpr
        (.inl ⟨(hGiven _).mpr hMem, rfl⟩)]
      rfl
    | noText hNew hOdd =>
      rw [take_glued, Given.addValue_eq_error_iff.mpr
        (.inr ⟨mt (hGiven _).mp hNew, hOdd, rfl⟩)]
      rfl

/-- What follows an argument that decides is not read. -/
theorem read_of_decides (hGiven : ∀ name, given.Has name ↔ name ∈ names)
    {argument : Bytes} (h : Decides names argument halt)
    (behind : List Bytes) :
    read ⟨given, none⟩ (argument :: behind) = .error halt := by
  obtain ⟨word, hForm, hStops⟩ := h
  have hGoes : word ≠ .terminator := by
    rintro rfl
    cases hStops
  rw [read_cons (Word.ofBytes_of_form hForm) hGoes,
    (take_eq_error_iff hGiven).mpr hStops]
  rfl

/--
A setting that is pending without a value lacks it at the end of the
arguments, and not if an argument follows, be it empty.
-/
theorem read_waiting_differs (s : Setting) :
    ¬ ∀ behind, read ⟨given, some (s, none)⟩ behind = .error halt := by
  intro h
  have hMissing : Except.error (.missingValue s) = Except.error halt :=
    h []
  have hValue : given.addValue s [] = .error halt := h [[]]
  cases hMissing
  rcases Given.addValue_eq_error_iff.mp hValue with ⟨-, hHalt⟩ | ⟨-, -, hHalt⟩
  · cases hHalt
  · cases hHalt

/-- An argument decides if what is read is the same whatever follows it. -/
theorem decides_of_read (hGiven : ∀ name, given.Has name ↔ name ∈ names)
    {argument : Bytes}
    (h : ∀ behind, read ⟨given, none⟩ (argument :: behind) = .error halt) :
    Decides names argument halt := by
  obtain ⟨word, hForm⟩ := Word.exists_form argument
  have hWord := Word.ofBytes_of_form hForm
  have hAlone := h []
  refine ⟨word, hForm, ?_⟩
  by_cases hGoes : word = .terminator
  · rw [hGoes] at hWord
    rw [read_terminator hWord] at hAlone
    cases hAlone
  · rw [read_cons hWord hGoes] at hAlone
    cases hTake : take ⟨given, none⟩ word with
    | error other =>
      rw [hTake] at hAlone
      cases hAlone
      exact (take_eq_error_iff hGiven).mp hTake
    | ok next =>
      rw [hTake] at hAlone
      rcases take_ready hGoes hTake with ⟨f, done, -, -, rfl⟩ |
        ⟨s, value, done, -, -, rfl⟩ | ⟨s, -, rfl⟩
      · cases hAlone
      · cases hAlone
      · have hPending : ∀ behind,
            read ⟨given, some (s, none)⟩ behind = .error halt := by
          intro behind
          rw [← h behind, read_cons hWord hGoes, hTake]
          rfl
        exact absurd hPending (read_waiting_differs s)

end Reader

/-! ## Command lines with a deciding argument -/

section Decided

variable {items : List Item} {argument : Bytes} {halt : Halt}

/-- Without variables, options fail for no other reason than the arguments. -/
theorem Given.exists_options_unset (given : Given) :
    ∃ options, given.options (fun _ => none) = .ok options := by
  rw [exists_options_iff]
  intro s
  rw [exists_resolve_iff]
  exact nofun

theorem Options.decides_iff (hForm : ∀ item ∈ items, item.WellFormed)
    (hOnce : (items.map Item.name).Nodup) :
    Decides (items.map Item.name) argument halt ↔
      ∀ fallbacks behind,
        read fallbacks (items.flatMap Item.arguments ++ argument :: behind)
          = .error halt := by
  constructor
  · intro h fallbacks behind
    have hRead := Reader.read_of_decides (fun _ => Given.has_items) h behind
    rw [read, Reader.read_start hForm hOnce, hRead]
    rfl
  · intro h
    refine Reader.decides_of_read (fun _ => Given.has_items) fun behind => ?_
    have hRead := h (fun _ => none) behind
    rw [read, Reader.read_start hForm hOnce] at hRead
    cases hOutcome : Reader.read ⟨items.foldl Given.add .empty, none⟩
        (argument :: behind) with
    | error other =>
      rw [hOutcome] at hRead
      cases hRead
      rfl
    | ok given =>
      obtain ⟨options, hOptions⟩ := given.exists_options_unset
      rw [hOutcome] at hRead
      cases hOptions.symm.trans hRead

/--
Behind options that are given completely and once, an argument that decides
settles what the program does: whatever follows it and whatever the
environment holds, reading ends with what the argument comes to, no program
is started, and the exit status is 0 for a text that was asked for and 2 for
every fault.
-/
theorem Program.decided_by_argument
    (hForm : ∀ item ∈ items, item.WellFormed)
    (hOnce : (items.map Item.name).Nodup)
    (hDecides : Decides (items.map Item.name) argument halt)
    (behind : List Bytes) (tree : FileTree) (environment : Environment)
    (output : Sink) :
    let arguments := items.flatMap Item.arguments ++ argument :: behind
    let exit := run tree environment arguments output
    Options.read environment.fallbacks arguments = .error halt ∧
      exit.status = (if halt.isFault then 2 else 0) ∧ exit.calls = [] := by
  intro arguments exit
  have hRead : Options.read environment.fallbacks arguments = .error halt :=
    (Options.decides_iff hForm hOnce).mp hDecides environment.fallbacks behind
  have hExit : exit = runHalt environment.fallbacks halt output :=
    run_halt hRead output
  rw [hExit, runHalt]
  cases halt with
  | inquiry q => exact ⟨hRead, rfl, rfl⟩
  | _ => exact ⟨hRead, rfl, rfl⟩

end Decided

/--
With a flag and a name given, later requests and faults do not come to
light, nor do variables that are no text.
-/
theorem Program.decided_by_argument_before_others :
    let items : List Item := [.flag .json, .spaced .interpreter "-"]
    let environment : Environment := ⟨fun _ => some [0xFF], none, none⟩
    let behind : List Bytes := [[0xFF], Utf8.encode "--help"]
    let line (argument : Bytes) :=
      items.flatMap Item.arguments ++ argument :: behind
    let read (argument : Bytes) :=
      Options.read environment.fallbacks (line argument)
    let exit (argument : Bytes) :=
      run .empty environment (line argument) .unlimited
    read (Utf8.encode "-Vx") = .error (.inquiry .version) ∧
      (exit (Utf8.encode "-Vx")).status = 0 ∧
      read (Utf8.encode "--python=" ++ [0xFF])
        = .error (.repeated (.setting .interpreter)) ∧
      read (Utf8.encode "--json=") = .error (.excessValue "" (.flag .json)) ∧
      (exit (Utf8.encode "--json=")).status = 2 := by
  intro items environment behind line read exit
  have hForm : ∀ item ∈ items, item.WellFormed := by
    simp [items, Item.WellFormed]
  have hOnce : (items.map Item.name).Nodup := by decide
  have hVersion := decided_by_argument hForm hOnce
    ⟨_, .letter .version (Utf8.encode "x"), .inquiry .version⟩ behind .empty
    environment .unlimited
  have hAgain := decided_by_argument hForm hOnce
    ⟨_, .setting .interpreter (some [0xFF]), .setting [0xFF] (by decide)⟩
    behind .empty environment .unlimited
  have hJson : Word.Form (Utf8.encode "--json=") (.overfull (.flag .json) []) :=
    Word.ofBytes_eq_iff_form.mp rfl
  have hExcess := decided_by_argument hForm hOnce
    ⟨_, hJson, .overfull (.flag .json) []⟩ behind .empty environment .unlimited
  exact ⟨hVersion.1, hVersion.2.1, hAgain.1, hExcess.1, hExcess.2.1⟩

end Preflight
