import Preflight.CommandLine.Reader
import Preflight.Proofs.CommandLine.Word

/-!
# What a reader makes of a pending setting

A setting that has its value is settled later than it could be, when the
next option is met. For what becomes of the arguments this delay is of no
importance: a reader whose pending setting can be settled goes on as if it
had been settled at once (`Reader.read_settled`). A setting without a value
has to find it in the next argument (`Reader.exists_value_of_read`). So it
is enough to look at readers with nothing pending.

## Main results

* `Given.addFlag_eq_ok_iff`, `Given.addValue_eq_ok_iff` — what can be
  settled, and `Given.addFlag_eq_error_iff`, `Given.addValue_eq_error_iff`
  what cannot.
* `Reader.read_settled` — settling late is settling at once.
-/

namespace Preflight

namespace Given

/-- Whether an option is settled. -/
def Has (given : Given) : Name → Prop
  | .flag f => f ∈ given.flags
  | .setting s => (given.value? s).isSome = true
  | .inquiry _ => False

theorem addFlag_eq_ok_iff {given result : Given} {f : Flag} :
    given.addFlag f = .ok result ↔
      ¬ given.Has (.flag f) ∧
        result = { given with flags := given.flags ++ [f] } := by
  unfold addFlag
  by_cases h : f ∈ given.flags
  · rw [if_pos (List.contains_iff_mem.mpr h)]
    simp [Has, h]
  · rw [if_neg (mt List.contains_iff_mem.mp h)]
    simp [Has, h, eq_comm]

theorem addValue_eq_ok_iff {given result : Given} {s : Setting}
    {value : Bytes} :
    given.addValue s value = .ok result ↔
      ¬ given.Has (.setting s) ∧ ∃ text, value = Utf8.encode text ∧
        result = { given with values := given.values ++ [(s, text)] } := by
  unfold addValue
  by_cases h : (given.value? s).isSome = true
  · simp [Has, h]
  · cases hText : Utf8.decode? value with
    | none =>
      have hOdd := Utf8.decode?_eq_none_iff.mp hText
      constructor
      · intro hOk
        simp [h] at hOk
      · rintro ⟨-, text, hValue, -⟩
        exact absurd ⟨text, hValue⟩ hOdd
    | some text =>
      have hValue := Utf8.decode?_eq_some_iff.mp hText
      constructor
      · intro hOk
        rw [if_neg h] at hOk
        cases hOk
        exact ⟨h, text, hValue, rfl⟩
      · rintro ⟨-, other, hOther, rfl⟩
        have hSame := Utf8.encode_injective (hValue.symm.trans hOther)
        rw [if_neg h, hSame]

theorem addFlag_eq_error_iff {given : Given} {f : Flag} {halt : Halt} :
    given.addFlag f = .error halt ↔
      given.Has (.flag f) ∧ halt = .repeated (.flag f) := by
  unfold addFlag
  by_cases h : f ∈ given.flags
  · rw [if_pos (List.contains_iff_mem.mpr h)]
    simp [Has, h, eq_comm]
  · rw [if_neg (mt List.contains_iff_mem.mp h)]
    simp [Has, h]

/-- That a setting was given before is noticed before its value is read. -/
theorem addValue_eq_error_iff {given : Given} {s : Setting} {value : Bytes}
    {halt : Halt} :
    given.addValue s value = .error halt ↔
      given.Has (.setting s) ∧ halt = .repeated (.setting s) ∨
        ¬ given.Has (.setting s) ∧ ¬ Utf8.IsText value ∧
          halt = .invalidText := by
  unfold addValue
  by_cases h : (given.value? s).isSome = true
  · simp [Has, h, eq_comm]
  · cases hText : Utf8.decode? value with
    | none =>
      have hOdd := Utf8.decode?_eq_none_iff.mp hText
      simp [Has, h, hOdd, eq_comm]
    | some text =>
      have hValue : Utf8.IsText value :=
        ⟨text, Utf8.decode?_eq_some_iff.mp hText⟩
      simp [Has, h, hValue]

end Given

section Outcomes

variable {α β : Type} {outcome : Except Halt α}

theorem map_eq_ok {f : α → β} {b : β} (h : outcome.map f = .ok b) :
    ∃ a, outcome = .ok a ∧ b = f a := by
  cases outcome with
  | ok a =>
    cases h
    exact ⟨a, rfl, rfl⟩
  | error halt => cases h

theorem map_eq_error {f : α → β} {halt : Halt}
    (h : outcome.map f = .error halt) : outcome = .error halt := by
  cases outcome with
  | ok a => cases h
  | error other =>
    cases h
    rfl

theorem bind_eq_ok {next : α → Except Halt β} {b : β}
    (h : outcome.bind next = .ok b) :
    ∃ a, outcome = .ok a ∧ next a = .ok b := by
  cases outcome with
  | ok a => exact ⟨a, rfl, h⟩
  | error halt => cases h

end Outcomes

namespace Reader

variable {given : Given} {s : Setting}

theorem read_cons {reader : Reader} {argument : Bytes} {word : Word}
    (hWord : Word.ofBytes argument = word) (hGoes : word ≠ .terminator)
    (rest : List Bytes) :
    reader.read (argument :: rest)
      = (reader.take word).bind (·.read rest) := by
  rw [read.eq_def]
  simp only [hWord, if_neg hGoes]
  rfl

theorem read_terminator {reader : Reader} {argument : Bytes}
    (hWord : Word.ofBytes argument = .terminator) (rest : List Bytes) :
    reader.read (argument :: rest) =
      match rest with
      | [] => reader.settle
      | extra :: _ => .error (.unknownArgument (Utf8.decodeLossy extra)) := by
  cases rest <;> rw [read.eq_def] <;> exact if_pos hWord

/-! ## Nothing pending -/

theorem take_flag (given : Given) (f : Flag) :
    take ⟨given, none⟩ (.flag f) = (given.addFlag f).map (⟨·, none⟩) := by
  show (given.addFlag f).bind (fun next => .ok (Reader.mk next none)) = _
  cases given.addFlag f <;> rfl

theorem take_glued (given : Given) (s : Setting) (value : Bytes) :
    take ⟨given, none⟩ (.setting s (some value))
      = (given.addValue s value).map (⟨·, none⟩) := by
  show (given.addValue s value).bind
    (fun next => .ok (Reader.mk next none)) = _
  cases given.addValue s value <;> rfl

/-- The words that a reader with nothing pending takes, and what they do. -/
theorem take_ready {word : Word} {next : Reader} (hGoes : word ≠ .terminator)
    (h : take ⟨given, none⟩ word = .ok next) :
    (∃ f done, word = .flag f ∧ given.addFlag f = .ok done ∧
      next = ⟨done, none⟩) ∨
    (∃ s value done, word = .setting s (some value) ∧
      given.addValue s value = .ok done ∧ next = ⟨done, none⟩) ∨
    (∃ s, word = .setting s none ∧ next = ⟨given, some (s, none)⟩) := by
  cases word with
  | terminator => exact absurd rfl hGoes
  | unknown shown => cases h
  | overfull name value => cases h
  | plain text => cases h
  | inquiry q => cases h
  | flag f =>
    rw [take_flag] at h
    obtain ⟨done, hAdd, hNext⟩ := map_eq_ok h
    exact .inl ⟨f, done, rfl, hAdd, hNext⟩
  | setting s value =>
    cases value with
    | none =>
      cases h
      exact .inr (.inr ⟨s, rfl, rfl⟩)
    | some value =>
      rw [take_glued] at h
      obtain ⟨done, hAdd, hNext⟩ := map_eq_ok h
      exact .inr (.inl ⟨s, value, done, rfl, hAdd, hNext⟩)

/-! ## A setting with its value -/

theorem take_settled {value : Bytes} {next : Given}
    (h : given.addValue s value = .ok next) {word : Word}
    (hGoes : word ≠ .terminator) :
    take ⟨given, some (s, some value)⟩ word = take ⟨next, none⟩ word := by
  cases word with
  | terminator => exact absurd rfl hGoes
  | unknown shown => rfl
  | overfull name value => rfl
  | plain text => rfl
  | inquiry q => simp [take, settle, h]
  | flag f => simp [take, settle, h]
  | setting other value => cases value <;> simp [take, settle, h]

/-- A reader whose pending setting can be settled might have settled it. -/
theorem read_settled {value : Bytes} {next : Given}
    (h : given.addValue s value = .ok next) (arguments : List Bytes) :
    read ⟨given, some (s, some value)⟩ arguments
      = read ⟨next, none⟩ arguments := by
  cases arguments with
  | nil => exact h
  | cons argument rest =>
    by_cases hWord : Word.ofBytes argument = .terminator
    · rw [read_terminator hWord, read_terminator hWord]
      cases rest with
      | nil => exact h
      | cons extra others => rfl
    · rw [read_cons rfl hWord, read_cons rfl hWord, take_settled h hWord]

theorem take_unsettled {value : Bytes} {halt : Halt}
    (h : given.addValue s value = .error halt) {word : Word}
    (hGoes : word ≠ .terminator) (next : Reader) :
    take ⟨given, some (s, some value)⟩ word ≠ .ok next := by
  intro hOk
  cases word with
  | terminator => exact absurd rfl hGoes
  | unknown shown => cases hOk
  | overfull name value => cases hOk
  | plain text => cases hOk
  | inquiry q =>
    simp only [take, settle, h] at hOk
    cases hOk
  | flag f =>
    simp only [take, settle, h] at hOk
    cases hOk
  | setting other value =>
    cases value <;> simp only [take, settle, h] at hOk <;> cases hOk

/-- A pending setting that cannot be settled is noticed in the end. -/
theorem read_unsettled {value : Bytes} {halt : Halt}
    (h : given.addValue s value = .error halt) (arguments : List Bytes)
    (result : Given) :
    read ⟨given, some (s, some value)⟩ arguments ≠ .ok result := by
  have hSettle : settle ⟨given, some (s, some value)⟩ = .error halt := h
  intro hRead
  cases arguments with
  | nil => exact nomatch hSettle.symm.trans hRead
  | cons argument rest =>
    by_cases hWord : Word.ofBytes argument = .terminator
    · rw [read_terminator hWord] at hRead
      cases rest with
      | nil => exact nomatch hSettle.symm.trans hRead
      | cons extra others => cases hRead
    · rw [read_cons rfl hWord] at hRead
      obtain ⟨next, hTake, -⟩ := bind_eq_ok hRead
      exact take_unsettled h hWord next hTake

theorem settles_of_read {value : Bytes} {arguments : List Bytes}
    {result : Given}
    (h : read ⟨given, some (s, some value)⟩ arguments = .ok result) :
    ∃ next, given.addValue s value = .ok next ∧
      read ⟨next, none⟩ arguments = .ok result := by
  cases hAdd : given.addValue s value with
  | ok next => exact ⟨next, rfl, by rw [← read_settled hAdd, h]⟩
  | error halt => exact absurd h (read_unsettled hAdd arguments result)

/-! ## A setting without one -/

/-- Only plain text is taken where a value is missing. -/
theorem take_waiting {word : Word} {next : Reader} (hGoes : word ≠ .terminator)
    (h : take ⟨given, some (s, none)⟩ word = .ok next) :
    ∃ text, word = .plain text ∧ next = ⟨given, some (s, some text)⟩ := by
  cases word with
  | plain text =>
    cases h
    exact ⟨text, rfl, rfl⟩
  | terminator => exact absurd rfl hGoes
  | unknown shown => cases h
  | overfull name value => cases h
  | inquiry q => cases h
  | flag f => cases h
  | setting other value => cases value <;> cases h

/-- A setting by itself finds its value in the next argument. -/
theorem exists_value_of_read {arguments : List Bytes} {result : Given}
    (h : read ⟨given, some (s, none)⟩ arguments = .ok result) :
    ∃ value rest next, arguments = value :: rest ∧ Word.IsPlain value ∧
      given.addValue s value = .ok next ∧
      read ⟨next, none⟩ rest = .ok result := by
  cases arguments with
  | nil => cases h
  | cons argument rest =>
    by_cases hWord : Word.ofBytes argument = .terminator
    · rw [read_terminator hWord] at h
      cases rest <;> cases h
    · rw [read_cons rfl hWord] at h
      obtain ⟨reader, hTake, hRest⟩ := bind_eq_ok h
      obtain ⟨text, hText, rfl⟩ := take_waiting hWord hTake
      obtain ⟨hPlain, rfl⟩ := Word.ofBytes_eq_plain_iff.mp hText
      obtain ⟨next, hAdd, hRead⟩ := settles_of_read hRest
      exact ⟨argument, rest, next, rfl, hPlain, hAdd, hRead⟩

end Reader

end Preflight
