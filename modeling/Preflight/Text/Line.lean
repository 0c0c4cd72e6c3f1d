/-!
# The first line of a text

A line ends at a line feed, and a carriage return directly before that line
feed belongs to the line break. A carriage return anywhere else, also at
the very end of the text, is part of the line. The empty text has no line.

## Main results

* `mem_of_mem_firstLine` — a first line adds nothing to its text.
-/

namespace Preflight

/-- The characters before the first line feed. -/
def untilBreak (text : List Char) : List Char :=
  text.takeWhile (· ≠ '\n')

/-- The first line of a text without its line break, if there is one. -/
def firstLine? (text : List Char) : Option (List Char) :=
  if text.isEmpty then none
  else if text.contains '\n' && (untilBreak text).getLast? == some '\r' then
    some (untilBreak text).dropLast
  else some (untilBreak text)

/-- The first line of a text, or the empty one. -/
def firstLine (text : String) : String :=
  String.ofList ((firstLine? text.toList).getD [])

theorem mem_of_mem_firstLine {text : String} {c : Char}
    (h : c ∈ (firstLine text).toList) : c ∈ text.toList := by
  have hBreak : ∀ {c}, c ∈ untilBreak text.toList → c ∈ text.toList :=
    fun hMem => (List.takeWhile_prefix _).subset hMem
  rw [firstLine, String.toList_ofList, firstLine?] at h
  split at h
  · cases h
  · split at h
    · exact hBreak (List.dropLast_subset _ h)
    · exact hBreak h

end Preflight
