import Mathlib.Data.List.TakeWhile
import Preflight.Proofs.Version

/-!
# How a line divides into fields

A line is blanks, then a field, then blanks, and so on: a field is text
without a blank that goes as far as it can. `IsSecondField` and `IsOnlyField`
say of a token where in a line it stands, in terms of the line alone, and
these are the two ways in which a line can have a token. They exclude each
other, and a line that has neither is all blank.

A front of a line can be taken off in one way only (`nextField_of_split`),
and there is a front to be taken off unless all is blank
(`allBlank_or_split`). Everything on whole lines is put together from these.

## Main results

* `lineToken?_eq_some_iff`, `lineToken?_eq_none_iff` — the token of a line is
  its second field, or its only one, and only a blank line has none.
-/

namespace Preflight

/-! ## Blanks and fields -/

/-- Text in which there are only blanks. -/
def AllBlank (text : List Char) : Prop := ∀ c ∈ text, isBlank c = true

/-- Text that may be a field: there is some, and no blank in it. -/
structure IsField (text : List Char) : Prop where
  ne_nil : text ≠ []
  solid : ∀ c ∈ text, isBlank c = false

instance (text : List Char) : Decidable (AllBlank text) :=
  decidable_of_iff (text.all isBlank = true) List.all_eq_true

theorem isField_iff_all {text : List Char} :
    text ≠ [] ∧ text.all (!isBlank ·) = true ↔ IsField text := by
  constructor
  · rintro ⟨hSome, hAll⟩
    exact ⟨hSome, by simpa using hAll⟩
  · rintro ⟨hSome, hSolid⟩
    exact ⟨hSome, by simpa using hSolid⟩

instance (text : List Char) : Decidable (IsField text) :=
  decidable_of_iff _ isField_iff_all

/-- What may stand behind a field: nothing, or a blank and anything. -/
def Ends (text : List Char) : Prop :=
  text = [] ∨ ∃ c rest, text = c :: rest ∧ isBlank c = true

theorem allBlank_iff {text : List Char} :
    AllBlank text ↔ text.dropWhile isBlank = [] := by
  simp [AllBlank, List.dropWhile_eq_nil_iff]

theorem isBlank_of_dropWhile {text rest : List Char} {c : Char}
    (h : text.dropWhile isBlank = c :: rest) : isBlank c = false := by
  have hHead := List.head?_dropWhile_not isBlank text
  rw [h] at hHead
  simpa using hHead

theorem ends_dropWhile (text : List Char) :
    Ends (text.dropWhile (!isBlank ·)) := by
  have hHead := List.head?_dropWhile_not (!isBlank ·) text
  cases h : text.dropWhile (!isBlank ·) with
  | nil => exact .inl rfl
  | cons c rest =>
    rw [h] at hHead
    exact .inr ⟨c, rest, rfl, by simpa using hHead⟩

theorem IsField.exists_cons {text : List Char} (h : IsField text) :
    ∃ c rest, text = c :: rest ∧ isBlank c = false := by
  obtain ⟨c, rest, rfl⟩ := List.exists_cons_of_ne_nil h.ne_nil
  exact ⟨c, rest, rfl, h.solid c List.mem_cons_self⟩

/-- Where a field has ended no other begins at once. -/
theorem not_ends_append {field : List Char} (h : IsField field)
    (rest : List Char) : ¬ Ends (field ++ rest) := by
  obtain ⟨c, others, rfl, hSolid⟩ := h.exists_cons
  rintro (hNil | ⟨d, more, hCons, hBlank⟩)
  · cases hNil
  · cases hCons
    rw [hSolid] at hBlank
    cases hBlank

/-! ## The front of a line -/

theorem nextField_cons_blank {c : Char} (h : isBlank c = true)
    (rest : List Char) : nextField (c :: rest) = nextField rest := by
  simp [nextField, h]

/-- A field behind blanks, with what follows it, is taken off. -/
theorem nextField_of_split {before field behind : List Char}
    (hBefore : AllBlank before) (hField : IsField field)
    (hBehind : Ends behind) :
    nextField (before ++ field ++ behind) = (field, behind) := by
  have hDrop : (before ++ field ++ behind).dropWhile isBlank
      = field ++ behind := by
    obtain ⟨c, rest, rfl, hSolid⟩ := hField.exists_cons
    rw [List.append_assoc, List.dropWhile_append_of_pos hBefore]
    simp [hSolid]
  have hSolid : ∀ c ∈ field, (!isBlank c) = true := by
    intro c hc
    rw [hField.solid c hc]
    rfl
  rw [nextField, hDrop, List.takeWhile_append_of_pos hSolid,
    List.dropWhile_append_of_pos hSolid]
  rcases hBehind with rfl | ⟨c, rest, rfl, hBlank⟩
  · simp
  · simp [hBlank]

/-- Unless all is blank, there is a field to be taken off. -/
theorem allBlank_or_split (line : List Char) :
    AllBlank line ∨ ∃ before field behind,
      line = before ++ field ++ behind ∧ AllBlank before ∧ IsField field ∧
        Ends behind := by
  cases hDrop : line.dropWhile isBlank with
  | nil => exact .inl (allBlank_iff.mpr hDrop)
  | cons c rest =>
    right
    refine ⟨line.takeWhile isBlank, (c :: rest).takeWhile (!isBlank ·),
      (c :: rest).dropWhile (!isBlank ·), ?_, ?_, ⟨?_, ?_⟩, ?_⟩
    · rw [List.append_assoc, List.takeWhile_append_dropWhile, ← hDrop,
        List.takeWhile_append_dropWhile]
    · intro d hd
      exact List.mem_takeWhile_imp hd
    · simp [isBlank_of_dropWhile hDrop]
    · intro d hd
      simpa using List.mem_takeWhile_imp hd
    · exact ends_dropWhile _

/-! ## Tokens -/

/-- A token behind a first field and blanks, as far as it goes. -/
def IsSecondField (line token : List Char) : Prop :=
  ∃ before first between behind,
    line = before ++ first ++ between ++ token ++ behind ∧
    AllBlank before ∧ IsField first ∧ between ≠ [] ∧ AllBlank between ∧
    IsField token ∧ Ends behind

/-- A token that has nothing but blanks around it. -/
def IsOnlyField (line token : List Char) : Prop :=
  ∃ before behind, line = before ++ token ++ behind ∧
    AllBlank before ∧ AllBlank behind ∧ IsField token

/-- The token of a line, by its place. -/
def IsToken (line token : List Char) : Prop :=
  IsSecondField line token ∨ IsOnlyField line token

section Line

variable {line token : List Char}

theorem AllBlank.ends (h : AllBlank line) : Ends line := by
  cases line with
  | nil => exact .inl rfl
  | cons c rest => exact .inr ⟨c, rest, rfl, h c List.mem_cons_self⟩

/-- A line is all blank or has a token. -/
theorem allBlank_or_token (line : List Char) :
    AllBlank line ∨ ∃ token, IsToken line token := by
  refine (allBlank_or_split line).imp_right ?_
  rintro ⟨before, first, behind, rfl, hBefore, hFirst, hBehind⟩
  rcases allBlank_or_split behind with
    hBlank | ⟨between, token, rest, rfl, hBetween, hToken, hRest⟩
  · exact ⟨first, .inr ⟨before, behind, rfl, hBefore, hBlank, hFirst⟩⟩
  · refine ⟨token, .inl ⟨before, first, between, rest, ?_, hBefore, hFirst,
      ?_, hBetween, hToken, hRest⟩⟩
    · simp only [List.append_assoc]
    · rintro rfl
      exact not_ends_append hToken rest hBehind

theorem lineToken?_of_allBlank (h : AllBlank line) :
    lineToken? line = none := by
  rw [lineToken?_eq, nextField_of_blank (allBlank_iff.mp h), if_pos rfl]

theorem lineToken?_of_second (h : IsSecondField line token) :
    lineToken? line = some token := by
  obtain ⟨before, first, between, behind, rfl, hBefore, hFirst, hBreak,
    hBetween, hToken, hBehind⟩ := h
  have hEnds : Ends (between ++ token ++ behind) := by
    obtain ⟨c, rest, rfl⟩ := List.exists_cons_of_ne_nil hBreak
    exact .inr ⟨c, _, rfl, hBetween c List.mem_cons_self⟩
  have hLine : nextField (before ++ first ++ between ++ token ++ behind)
      = (first, between ++ token ++ behind) := by
    rw [← nextField_of_split hBefore hFirst hEnds]
    simp only [List.append_assoc]
  rw [lineToken?_eq, hLine, nextField_of_split hBetween hToken hBehind,
    if_neg hFirst.ne_nil, if_neg hToken.ne_nil]

theorem lineToken?_of_only (h : IsOnlyField line token) :
    lineToken? line = some token := by
  obtain ⟨before, behind, rfl, hBefore, hBehind, hToken⟩ := h
  rw [lineToken?_eq, nextField_of_split hBefore hToken hBehind.ends,
    if_neg hToken.ne_nil, nextField_of_blank (allBlank_iff.mp hBehind),
    if_pos rfl]

theorem lineToken?_of_token (h : IsToken line token) :
    lineToken? line = some token :=
  h.elim lineToken?_of_second lineToken?_of_only

/-- The token of a line is its second field, or its only one. -/
theorem lineToken?_eq_some_iff :
    lineToken? line = some token ↔ IsToken line token := by
  refine ⟨?_, lineToken?_of_token⟩
  intro h
  rcases allBlank_or_token line with hBlank | ⟨other, hOther⟩
  · rw [lineToken?_of_allBlank hBlank] at h
    cases h
  · rw [lineToken?_of_token hOther] at h
    cases h
    exact hOther

/-- Only a blank line has no token. -/
theorem lineToken?_eq_none_iff : lineToken? line = none ↔ AllBlank line := by
  refine ⟨?_, lineToken?_of_allBlank⟩
  intro h
  refine (allBlank_or_token line).resolve_right ?_
  rintro ⟨token, hToken⟩
  rw [lineToken?_of_token hToken] at h
  cases h

theorem isField_of_lineToken? (h : lineToken? line = some token) :
    IsField token := by
  rcases lineToken?_eq_some_iff.mp h with hSecond | hOnly
  · obtain ⟨-, -, -, -, -, -, -, -, -, hToken, -⟩ := hSecond
    exact hToken
  · obtain ⟨-, -, -, -, -, hToken⟩ := hOnly
    exact hToken

end Line

end Preflight
