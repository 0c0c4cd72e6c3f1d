import Preflight.Proofs.CommandLine.Grammar

/-!
# What a command line amounts to

A command line is accepted if it is made up of items and no environment
variable that is needed spoils it. A variable is needed for a setting that
no item gives, and for no other.

## Main results

* `Options.read_eq_ok_iff` — which command lines are accepted in an
  environment, and what the options are.
-/

namespace Preflight

namespace Options

/-- The value of a setting. -/
def setting (options : Options) : Setting → String
  | .tool => options.tool
  | .interpreter => options.interpreter
  | .legacyInterpreter => options.legacyInterpreter

/-- Whether a flag is on. -/
def flag (options : Options) : Flag → Bool
  | .noLegacy => options.noLegacy
  | .json => options.json
  | .debug => options.debug

end Options

/-! ## Settings and the environment -/

namespace Given

variable {given : Given} {fallbacks : Fallbacks} {s : Setting}

theorem resolve_of_some {text : String} (h : given.value? s = some text) :
    given.resolve fallbacks s = .ok text := by
  simp only [resolve, h]

theorem resolve_of_unset (h : given.value? s = none)
    (hUnset : fallbacks s = none) :
    given.resolve fallbacks s = .ok s.standard := by
  simp only [resolve, h, hUnset]

theorem resolve_of_set {text : String} (h : given.value? s = none)
    (hSet : fallbacks s = some (Utf8.encode text)) :
    given.resolve fallbacks s = .ok text := by
  simp only [resolve, h, hSet, Utf8.decode?_encode]

theorem resolve_of_odd {bytes : Bytes} (h : given.value? s = none)
    (hSet : fallbacks s = some bytes) (hOdd : ¬ Utf8.IsText bytes) :
    given.resolve fallbacks s = .error .invalidText := by
  simp only [resolve, h, hSet, Utf8.decode?_eq_none_iff.mpr hOdd]

/-- A setting has a value unless it is left to a variable that is no text. -/
theorem exists_resolve_iff :
    (∃ text, given.resolve fallbacks s = .ok text) ↔
      (¬ given.Has (.setting s) →
        ∀ bytes, fallbacks s = some bytes → Utf8.IsText bytes) := by
  cases hValue : given.value? s with
  | some text =>
    have hHas : given.Has (.setting s) := by
      rw [Has, hValue]
      rfl
    constructor
    · intro _ hNot
      exact absurd hHas hNot
    · intro _
      exact ⟨text, resolve_of_some hValue⟩
  | none =>
    have hNot : ¬ given.Has (.setting s) := by
      rw [Has, hValue]
      exact Bool.false_ne_true
    constructor
    · rintro ⟨text, hText⟩ - bytes hSet
      refine Classical.byContradiction fun hOdd => ?_
      rw [resolve_of_odd hValue hSet hOdd] at hText
      cases hText
    · intro h
      cases hSet : fallbacks s with
      | none => exact ⟨_, resolve_of_unset hValue hSet⟩
      | some bytes =>
        obtain ⟨text, rfl⟩ := h hNot bytes hSet
        exact ⟨text, resolve_of_set hValue hSet⟩

theorem options_eq_ok_iff {options : Options} :
    given.options fallbacks = .ok options ↔
      (∀ s, given.resolve fallbacks s = .ok (options.setting s)) ∧
        ∀ f, options.flag f = given.flags.contains f := by
  unfold Given.options
  constructor
  · intro h
    cases hTool : given.resolve fallbacks .tool with
    | error halt => rw [hTool] at h; cases h
    | ok tool =>
    cases hInterpreter : given.resolve fallbacks .interpreter with
    | error halt => rw [hTool, hInterpreter] at h; cases h
    | ok interpreter =>
    cases hLegacy : given.resolve fallbacks .legacyInterpreter with
    | error halt => rw [hTool, hInterpreter, hLegacy] at h; cases h
    | ok legacy =>
      rw [hTool, hInterpreter, hLegacy] at h
      cases h
      constructor
      · intro s
        cases s <;> assumption
      · intro f
        cases f <;> rfl
  · rintro ⟨hSettings, hFlags⟩
    rw [hSettings .tool, hSettings .interpreter, hSettings .legacyInterpreter,
      ← hFlags .noLegacy, ← hFlags .json, ← hFlags .debug]
    rfl

theorem exists_options_iff :
    (∃ options, given.options fallbacks = .ok options) ↔
      ∀ s, ∃ text, given.resolve fallbacks s = .ok text := by
  constructor
  · rintro ⟨options, hOptions⟩ s
    exact ⟨_, (options_eq_ok_iff.mp hOptions).1 s⟩
  · intro h
    obtain ⟨tool, hTool⟩ := h .tool
    obtain ⟨interpreter, hInterpreter⟩ := h .interpreter
    obtain ⟨legacy, hLegacy⟩ := h .legacyInterpreter
    refine ⟨⟨tool, interpreter, legacy, given.flags.contains .noLegacy,
      given.flags.contains .json, given.flags.contains .debug⟩, ?_⟩
    rw [options_eq_ok_iff]
    constructor
    · intro s
      cases s <;> assumption
    · intro f
      cases f <;> rfl

theorem not_has_empty (name : Name) : ¬ empty.Has name := by
  cases name <;> exact nofun

/-- What is settled by items is what they name. -/
theorem has_items {items : List Item} {name : Name} :
    (items.foldl add empty).Has name ↔ name ∈ items.map Item.name := by
  rw [has_addAll, or_iff_right (not_has_empty name)]

end Given

/-! ## Command lines -/

theorem Reader.read_start {items : List Item}
    (hForm : ∀ item ∈ items, item.WellFormed)
    (hOnce : (items.map Item.name).Nodup) (rest : List Bytes) :
    start.read (items.flatMap Item.arguments ++ rest)
      = read ⟨items.foldl Given.add .empty, none⟩ rest :=
  read_items hForm hOnce (fun item _ => Given.not_has_empty item.name) rest

theorem Reader.read_of_spells {items : List Item} {arguments : List Bytes}
    (h : Spells items arguments) :
    start.read arguments = .ok (items.foldl Given.add .empty) := by
  have hItems := read_start h.wellFormed h.once
  cases h.spelled with
  | inl hArguments =>
    rw [hArguments, ← List.append_nil (items.flatMap _)]
    exact hItems []
  | inr hArguments =>
    rw [hArguments]
    refine (hItems [Utf8.encode "--"]).trans ?_
    exact read_terminator (Word.ofBytes_spelling rfl) []

namespace Options

/-- What the items of a command line and the environment leave in an option. -/
theorem read_of_spells (fallbacks : Fallbacks) {items : List Item}
    {arguments : List Bytes} (h : Spells items arguments) :
    read fallbacks arguments
      = (items.foldl Given.add .empty).options fallbacks := by
  rw [read, Reader.read_of_spells h]
  rfl

theorem exists_spells_of_read {fallbacks : Fallbacks}
    {arguments : List Bytes} {options : Options}
    (h : read fallbacks arguments = .ok options) :
    ∃ items, Spells items arguments := by
  cases hRead : Reader.start.read arguments with
  | error halt =>
    rw [read, hRead] at h
    cases h
  | ok given =>
    obtain ⟨items, hSpells, -⟩ := Reader.exists_items_of_read hRead
    exact ⟨items, hSpells⟩

theorem exists_read_iff (fallbacks : Fallbacks) {items : List Item}
    {arguments : List Bytes} (h : Spells items arguments) :
    (∃ options, read fallbacks arguments = .ok options) ↔
      ∀ s, .setting s ∉ items.map Item.name →
        ∀ bytes, fallbacks s = some bytes → Utf8.IsText bytes := by
  rw [read_of_spells fallbacks h, Given.exists_options_iff]
  refine forall_congr' fun s => ?_
  rw [Given.exists_resolve_iff, Given.has_items]

section Accepted

variable {fallbacks : Fallbacks} {arguments : List Bytes} {items : List Item}
  {options : Options}

theorem flag_eq_true_iff (hSpells : Spells items arguments)
    (h : read fallbacks arguments = .ok options) (f : Flag) :
    options.flag f = true ↔ .flag f ∈ items := by
  rw [read_of_spells fallbacks hSpells, Given.options_eq_ok_iff] at h
  rw [h.2 f, List.contains_iff_mem, Given.mem_flags_addAll]
  exact or_iff_right nofun

/-- A value on the command line counts, whatever the environment says. -/
theorem setting_of_mem (hSpells : Spells items arguments)
    (h : read fallbacks arguments = .ok options) {item : Item}
    (hMem : item ∈ items) {s : Setting} {text : String}
    (hItem : item = .glued s text ∨ item = .spaced s text) :
    options.setting s = text := by
  rw [read_of_spells fallbacks hSpells, Given.options_eq_ok_iff] at h
  have hValue := Given.value?_addAll_of_mem hSpells.once
    (Given.not_has_empty _) hMem hItem
  have hResolved := h.1 s
  rw [Given.resolve_of_some hValue] at hResolved
  exact (Except.ok.inj hResolved).symm

/-- Otherwise the environment is asked. -/
theorem setting_of_not_mem (hSpells : Spells items arguments)
    (h : read fallbacks arguments = .ok options) {s : Setting}
    (hNot : .setting s ∉ items.map Item.name) :
    (∀ text, fallbacks s = some (Utf8.encode text) →
      options.setting s = text) ∧
    (fallbacks s = none → options.setting s = s.standard) := by
  rw [read_of_spells fallbacks hSpells, Given.options_eq_ok_iff] at h
  have hNone : (items.foldl Given.add .empty).value? s = none := by
    have hHas := mt Given.has_addAll.mp
      (not_or.mpr ⟨Given.not_has_empty (.setting s), hNot⟩)
    simpa [Given.Has] using hHas
  have hResolved := h.1 s
  constructor
  · intro text hSet
    rw [Given.resolve_of_set hNone hSet] at hResolved
    exact (Except.ok.inj hResolved).symm
  · intro hUnset
    rw [Given.resolve_of_unset hNone hUnset] at hResolved
    exact (Except.ok.inj hResolved).symm

end Accepted

/--
A command line is accepted in an environment if and only if it is made up of
items and the variable of each setting that no item gives is text, if it is
set. A flag is on if an item gives it. The value of a setting is that of the
item which gives it, else that of its variable, else the standard one, and
the check is made for these values.
-/
theorem read_eq_ok_iff (environment : String → Option Bytes)
    (arguments : List Bytes) :
    let fallbacks : Fallbacks := fun s => environment s.variableName
    ((∃ options, read fallbacks arguments = .ok options) ↔
      ∃ items, Spells items arguments ∧
        ∀ s, .setting s ∉ items.map Item.name →
          ∀ bytes, environment s.variableName = some bytes →
            Utf8.IsText bytes) ∧
    ∀ items options, Spells items arguments →
      read fallbacks arguments = .ok options →
      (∀ f, options.flag f = true ↔ .flag f ∈ items) ∧
      (∀ s text, .glued s text ∈ items ∨ .spaced s text ∈ items →
        options.setting s = text) ∧
      (∀ s, .setting s ∉ items.map Item.name →
        (∀ text, environment s.variableName = some (Utf8.encode text) →
          options.setting s = text) ∧
        (environment s.variableName = none →
          options.setting s = s.standard)) ∧
      options.config = {
        requiredTool := ⟨options.tool, RequiredTool.standardHint⟩
        interpreter := options.interpreter
        legacyInterpreter := if .flag .noLegacy ∈ items then none
          else some options.legacyInterpreter
        versionFlag := "-V" } := by
  intro fallbacks
  constructor
  · constructor
    · rintro ⟨options, hOptions⟩
      obtain ⟨items, hSpells⟩ := exists_spells_of_read hOptions
      have hText := (exists_read_iff fallbacks hSpells).mp ⟨options, hOptions⟩
      exact ⟨items, hSpells, hText⟩
    · rintro ⟨items, hSpells, hText⟩
      exact (exists_read_iff fallbacks hSpells).mpr hText
  · intro items options hSpells hOptions
    have hFlag := flag_eq_true_iff hSpells hOptions
    refine ⟨hFlag, ?_, fun s => setting_of_not_mem hSpells hOptions, ?_⟩
    · intro s text hMem
      cases hMem with
      | inl hGlued => exact setting_of_mem hSpells hOptions hGlued (.inl rfl)
      | inr hSpaced => exact setting_of_mem hSpells hOptions hSpaced (.inr rfl)
    · have hLegacy : options.noLegacy = true ↔ .flag .noLegacy ∈ items :=
        hFlag .noLegacy
      rw [config]
      simp only [hLegacy]
      rfl

/-- A dash is a value, and a variable is not looked at for its dashes. -/
example :
    read (fun s => if s = .legacyInterpreter then some (Utf8.encode "--x")
        else none)
      [Utf8.encode "--python", Utf8.encode "-", Utf8.encode "--json",
        Utf8.encode "--pg-config=a=b", Utf8.encode "--"]
      = .ok ⟨"a=b", "-", "--x", false, true, false⟩ := by
  rfl

end Options

end Preflight
