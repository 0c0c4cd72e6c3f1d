import Mathlib.Data.List.TakeWhile
import Preflight.Version

/-!
# What a version is read from

An output announces a version on its first line, and the first line is not
quite the text before the first line feed: a carriage return in front of
that line feed is left out, and one at the end of an output without a line
feed is not. For the version this makes no difference. A carriage return is
a blank, and a blank at the end of a line is in no field.

So the version is a function of the characters before the first line feed
alone. Whether a line feed follows, and what follows it, is not seen.

## Main results

* `lineToken?_append_blank` — a blank at the end of a line is not seen.
* `versionToken?_eq`, `Version.ofOutput_eq_ofLine` — the token and the
  version of an output are those of the text before its first line feed.
-/

namespace Preflight

/-! ## A blank at the end of a line -/

section Blank

variable {c : Char}

/-- Nothing is left of blanks in front of a blank. -/
theorem dropWhile_append_blank (h : isBlank c = true) {line : List Char}
    (hLine : line.dropWhile isBlank = []) :
    (line ++ [c]).dropWhile isBlank = [] := by
  rw [List.dropWhile_append, hLine]
  simp [h]

/-- A line that holds only blanks has no field. -/
theorem nextField_of_blank {line : List Char}
    (hLine : line.dropWhile isBlank = []) : nextField line = ([], []) := by
  simp [nextField, hLine]

/-- In a line that holds more, the blank is left behind the first field. -/
theorem nextField_append_blank (h : isBlank c = true) {line : List Char}
    (hLine : line.dropWhile isBlank ≠ []) :
    nextField (line ++ [c])
      = ((nextField line).1, (nextField line).2 ++ [c]) := by
  have hDrop : (line ++ [c]).dropWhile isBlank
      = line.dropWhile isBlank ++ [c] := by
    rw [List.dropWhile_append, if_neg (by simpa using hLine)]
  have hTake : [c].takeWhile (!isBlank ·) = [] := by simp [h]
  have hKeep : [c].dropWhile (!isBlank ·) = [c] := by simp [h]
  generalize hRest : line.dropWhile isBlank = rest at hDrop
  simp only [nextField, hDrop, hRest, Prod.mk.injEq]
  constructor
  · rw [List.takeWhile_append, hTake]
    by_cases hAll : (rest.takeWhile (!isBlank ·)).length = rest.length
    · have hSame : rest.takeWhile (!isBlank ·) = rest :=
        (List.takeWhile_prefix _).eq_of_length hAll
      rw [if_pos hAll, List.append_nil, hSame]
    · rw [if_neg hAll]
  · rw [List.dropWhile_append, hKeep]
    by_cases hNone : (rest.dropWhile (!isBlank ·)).isEmpty = true
    · rw [if_pos hNone, List.isEmpty_iff.mp hNone, List.nil_append]
    · rw [if_neg hNone]

/-- What is left of a line has a field with the blank if it has one without. -/
theorem nextField_append_blank_fst (h : isBlank c = true) (line : List Char) :
    (nextField (line ++ [c])).1 = (nextField line).1 := by
  by_cases hLine : line.dropWhile isBlank = []
  · rw [nextField_of_blank hLine,
      nextField_of_blank (dropWhile_append_blank h hLine)]
  · rw [nextField_append_blank h hLine]

theorem lineToken?_eq (line : List Char) :
    lineToken? line =
      if (nextField line).1 = [] then none
      else if (nextField (nextField line).2).1 = [] then
        some (nextField line).1
      else some (nextField (nextField line).2).1 := by
  unfold lineToken?
  rcases nextField line with ⟨_ | ⟨first, field⟩, rest⟩
  · rfl
  · dsimp only
    rcases nextField rest with ⟨_ | ⟨_, _⟩, _⟩ <;> rfl

/-- A blank at the end of a line is not seen. -/
theorem lineToken?_append_blank (h : isBlank c = true) (line : List Char) :
    lineToken? (line ++ [c]) = lineToken? line := by
  have hFirst := nextField_append_blank_fst h line
  by_cases hLine : line.dropWhile isBlank = []
  · have hNone : (nextField line).1 = [] := by rw [nextField_of_blank hLine]
    rw [lineToken?_eq, lineToken?_eq, hFirst, if_pos hNone, if_pos hNone]
  · have hRest : (nextField (line ++ [c])).2 = (nextField line).2 ++ [c] := by
      rw [nextField_append_blank h hLine]
    rw [lineToken?_eq, lineToken?_eq, hFirst, hRest,
      nextField_append_blank_fst h]

end Blank

/-! ## Outputs -/

theorem lineFeed_not_mem_untilBreak (text : List Char) :
    '\n' ∉ untilBreak text := by
  intro hMem
  have hOther := List.mem_takeWhile_imp hMem
  exact absurd rfl (of_decide_eq_true hOther)

theorem untilBreak_of_not_mem {line : List Char} (h : '\n' ∉ line) :
    untilBreak line = line := by
  rw [untilBreak, List.takeWhile_eq_self_iff]
  intro c hc
  rw [decide_eq_true_eq]
  rintro rfl
  exact h hc

/-- What is in front of a line feed counts, and nothing behind it. -/
theorem untilBreak_append (line rest : List Char) :
    untilBreak (line ++ '\n' :: rest) = untilBreak line := by
  induction line with
  | nil => simp [untilBreak]
  | cons c line ih =>
    by_cases h : c = '\n'
    · simp [untilBreak, h]
    · simpa [untilBreak, h] using ih

/-- A list goes on up to its first `stop`, or to its end. -/
theorem eq_takeWhile_or {α : Type} [DecidableEq α] (stop : α)
    (items : List α) :
    items = items.takeWhile (· ≠ stop) ∨
      ∃ rest, items = items.takeWhile (· ≠ stop) ++ stop :: rest := by
  induction items with
  | nil => exact .inl rfl
  | cons item items ih =>
    by_cases h : item = stop
    · right
      exact ⟨items, by simp [h]⟩
    · rw [List.takeWhile_cons_of_pos (by simpa using h)]
      refine ih.imp (congrArg _) ?_
      rintro ⟨rest, hRest⟩
      exact ⟨rest, congrArg _ hRest⟩

/-- The token of an output is that of the text before its first line feed. -/
theorem versionToken?_eq (output : String) :
    versionToken? output
      = (lineToken? (untilBreak output.toList)).map String.ofList := by
  have hToken : (firstLine? output.toList).bind lineToken?
      = lineToken? (untilBreak output.toList) := by
    unfold firstLine?
    by_cases hEmpty : output.toList.isEmpty = true
    · rw [if_pos hEmpty, List.isEmpty_iff.mp hEmpty]
      rfl
    · rw [if_neg hEmpty]
      by_cases hReturn : (output.toList.contains '\n'
          && (untilBreak output.toList).getLast? == some '\r') = true
      · rw [if_pos hReturn]
        simp only [Bool.and_eq_true, beq_iff_eq] at hReturn
        obtain ⟨line, hLine⟩ := List.getLast?_eq_some_iff.mp hReturn.2
        rw [hLine, List.dropLast_concat]
        exact (lineToken?_append_blank (by decide) line).symm
      · rw [if_neg hReturn]
        rfl
  rw [versionToken?, hToken]

/-! ## Versions -/

namespace Version

/-- The version that a line announces, empty if it has no field. -/
def ofLine (line : List Char) : Version :=
  ((lineToken? line).map fun token => ofToken (String.ofList token)).getD empty

/-- What ends the first line, and what follows it, is not seen. -/
theorem ofOutput_eq_ofLine (output : String) :
    ofOutput output = ofLine (untilBreak output.toList) := by
  rw [ofOutput_eq, versionToken?_eq, ofLine, Option.map_map]
  rfl

end Version

end Preflight
