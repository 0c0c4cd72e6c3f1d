import Preflight.Proofs.Pattern

/-!
# The token of an output

What an output announces stands on its first line, and it can be told in
three ways what that is: by taking fields off the line, by where a token
stands in it, and by a pattern. All three agree on every output, also where
blanks are other than spaces, where the line ends with a carriage return, and
where there is no line at all.

## Main results

* `token_of_first_line` — what the token and the version of an output are.
-/

namespace Preflight

section Line

variable {line : String} (hLine : '\n' ∉ line.toList)

include hLine

theorem versionToken?_of_line :
    versionToken? line = (lineToken? line.toList).map String.ofList := by
  rw [versionToken?_eq, untilBreak_of_not_mem hLine]

theorem versionToken?_lineFeed (rest : String) :
    versionToken? (line ++ "\n" ++ rest) = versionToken? line := by
  have hText : (line ++ "\n" ++ rest).toList
      = line.toList ++ '\n' :: rest.toList := by simp
  rw [versionToken?_of_line hLine, versionToken?_eq, hText, untilBreak_append,
    untilBreak_of_not_mem hLine]

/-- The carriage return stays on the line, where it is a blank at the end. -/
theorem versionToken?_return (rest : String) :
    versionToken? (line ++ "\r\n" ++ rest) = versionToken? line := by
  have hText : (line ++ "\r\n" ++ rest).toList
      = (line.toList ++ ['\r']) ++ '\n' :: rest.toList := by simp
  have hReturn : '\n' ∉ line.toList ++ ['\r'] := by simp [hLine]
  rw [versionToken?_of_line hLine, versionToken?_eq, hText, untilBreak_append,
    untilBreak_of_not_mem hReturn, lineToken?_append_blank (by decide)]

end Line

namespace Version

/-- The version is the front of the token. -/
theorem ofLine_of_token {line token : List Char} (h : IsToken line token) :
    (ofLine line).text.toList = token.take (min 3 token.length) := by
  have hTake : token.take 3 = token.take (min 3 token.length) := by
    rw [← List.take_eq_take_min]
  rw [ofLine, lineToken?_of_token h, ← hTake]
  simp [ofToken, width]

theorem ofLine_of_allBlank {line : List Char} (h : AllBlank line) :
    ofLine line = empty := by
  rw [ofLine, lineToken?_of_allBlank h]
  rfl

end Version

/--
The token of an output, where `line` is the text in front of its first line
feed: the second field of the line or its only one, of which there is one at
most, and none exactly if the line is all blank. What ends the line, and what
follows it, is of no importance. The version is what the token begins with,
and the token is what the pattern for fields finds in the first line.
-/
theorem token_of_first_line (output : String) :
    let line := untilBreak output.toList
    ('\n' ∉ line ∧ (output.toList = line ∨
      ∃ rest, output.toList = line ++ '\n' :: rest)) ∧
    (∀ token : String, versionToken? output = some token ↔
      IsToken line token.toList) ∧
    (versionToken? output = none ↔ AllBlank line) ∧
    (∀ one other, IsToken line one → IsToken line other → one = other) ∧
    (∀ rest,
      versionToken? (String.ofList line) = versionToken? output ∧
      versionToken? (String.ofList line ++ "\n" ++ rest)
        = versionToken? output ∧
      versionToken? (String.ofList line ++ "\r\n" ++ rest)
        = versionToken? output) ∧
    (∀ token, IsToken line token →
      (Version.ofOutput output).text.toList
        = token.take (min 3 token.length)) ∧
    (AllBlank line → (Version.ofOutput output).text = "") ∧
    versionToken? output
      = ((firstLine? output.toList).bind patternToken?).map String.ofList := by
  intro line
  have hBreak : '\n' ∉ line := lineFeed_not_mem_untilBreak _
  have hToken : versionToken? output = (lineToken? line).map String.ofList :=
    versionToken?_eq output
  have hAlone : versionToken? (String.ofList line) = versionToken? output := by
    rw [versionToken?_of_line (by simpa using hBreak), String.toList_ofList,
      hToken]
  refine ⟨⟨hBreak, eq_takeWhile_or '\n' _⟩, ?_, ?_, ?_, ?_, ?_, ?_, ?_⟩
  · intro token
    rw [hToken, ← lineToken?_eq_some_iff, Option.map_eq_some_iff]
    constructor
    · rintro ⟨chars, hChars, rfl⟩
      rw [hChars, String.toList_ofList]
    · intro h
      exact ⟨token.toList, h, String.ofList_toList⟩
  · rw [hToken, Option.map_eq_none_iff, lineToken?_eq_none_iff]
  · intro one other hOne hOther
    have hSame := lineToken?_of_token hOne
    rw [lineToken?_of_token hOther] at hSame
    exact (Option.some.inj hSame).symm
  · intro rest
    have hBreak' : '\n' ∉ (String.ofList line).toList := by simpa using hBreak
    refine ⟨hAlone, ?_, ?_⟩
    · rw [versionToken?_lineFeed hBreak', hAlone]
    · rw [versionToken?_return hBreak', hAlone]
  · intro token h
    rw [Version.ofOutput_eq_ofLine]
    exact Version.ofLine_of_token h
  · intro h
    rw [Version.ofOutput_eq_ofLine, Version.ofLine_of_allBlank h]
    rfl
  · rw [funext patternToken?_eq, versionToken?]

/-- A token between blanks of five kinds, and a line with nothing but blanks. -/
theorem token_of_first_line_between_odd_blanks :
    let output := "\u3000Python\u00A0\té3.11\u2028\r\nPython 2.7"
    let line := untilBreak output.toList
    let token := ['é', '3', '.', '1', '1']
    IsToken line token ∧
      (∀ other, IsToken line other → other = token) ∧
      versionToken? output = some (String.ofList token) ∧
      (Version.ofOutput output).text.toList = ['é', '3', '.'] ∧
      AllBlank (untilBreak " \t\r\n3.11".toList) ∧
      (Version.ofOutput " \t\r\n3.11").text = "" := by
  intro output line token
  obtain ⟨-, hSome, -, hUnique, -, hVersion, -⟩ := token_of_first_line output
  obtain ⟨-, -, -, -, -, -, hBlank, -⟩ := token_of_first_line " \t\r\n3.11"
  have hToken : IsToken line token := by
    refine .inl ⟨['\u3000'], ['P', 'y', 't', 'h', 'o', 'n'], ['\u00A0', '\t'],
      ['\u2028', '\r'], ?_, ?_, ?_, ?_, ?_, ?_, ?_⟩
    · decide +kernel
    · decide
    · decide
    · decide
    · decide
    · decide
    · exact .inr ⟨'\u2028', ['\r'], rfl, by decide⟩
  have hLine : AllBlank (untilBreak " \t\r\n3.11".toList) := by
    decide +kernel
  have hText : (String.ofList token).toList = token := String.toList_ofList
  exact ⟨hToken, fun other hOther => hUnique other token hOther hToken,
    (hSome _).mpr (hText.symm ▸ hToken), hVersion token hToken, hLine,
    hBlank hLine⟩

end Preflight
