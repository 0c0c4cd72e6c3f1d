import Preflight.Proofs.Report.Grammar
import Preflight.Proofs.Sink
import Preflight.Proofs.Text.Utf8

/-!
# What a JSON report says

A report is written as a JSON object of three members, each on a line of its
own. Whatever its fields hold, the text says just that: it is read as the
object with these fields and as nothing else, so no field can close its
string, begin another member or be taken for `null`. A line feed in a field
is escaped, which leaves five lines in every text.

## Main results

* `Report.reads_jsonOf` — the object that a report spells.
* `Report.count_jsonOf` — the line feeds of the text.
* `Report.writeJson_spells` — what is written, and how it is read.
-/

namespace Preflight

namespace Json

/-- No line feed is left in a character that is escaped. -/
theorem lineFeed_not_mem_escape (c : Char) : '\n' ∉ escape c := by
  have hShort : ∀ pair ∈ shortEscapes, '\n' ∉ ['\\', pair.1] := by decide
  have hCodes : ∀ code < 0x20, '\n' ∉ escapeCode code := by decide
  rcases escape_cases c with ⟨e, hPair, hEscape⟩ | ⟨hCode, hEscape⟩ |
    ⟨hCode, -, -, hEscape⟩
  · rw [hEscape]
    exact hShort _ hPair
  · rw [hEscape]
    exact hCodes _ hCode
  · rw [hEscape, List.mem_singleton]
    rintro rfl
    exact absurd hCode (by decide)

/-- A string is written on one line. -/
theorem lineFeed_not_mem_string (text : String) :
    '\n' ∉ (string text).toList := by
  simp [string, lineFeed_not_mem_escape]

theorem reads_string (text : String) (rest : List Char) :
    Reads (.value (.string text)) ((string text).toList ++ rest) rest := by
  have hRead := Reads.string (readsString_escape text.toList rest)
  rw [String.ofList_toList] at hRead
  simpa [string] using hRead

/-- A member on a line of its own, and what follows it. -/
def memberLine (key : String) (value rest : List Char) : List Char :=
  '\n' :: ' ' :: ' ' :: '"' :: (key.toList ++ '"' :: ':' :: ' '
    :: (value ++ rest))

section Member

variable {key : String} {v : Value} {value rest : List Char}

/-- The parts of a line: a name that needs no escape, a colon and a value. -/
theorem memberLine_parts (hKey : key.toList.flatMap escape = key.toList)
    (value rest : List Char) :
    ∃ name colon, Space (memberLine key value rest) ('"' :: name) ∧
      ReadsString key.toList name colon ∧
      Space colon (':' :: ' ' :: (value ++ rest)) ∧
      Space (' ' :: (value ++ rest)) (value ++ rest) := by
  have hRead := readsString_escape key.toList (':' :: ' ' :: (value ++ rest))
  rw [hKey] at hRead
  have hBlank : IsSpace ' ' := .inl rfl
  have hBreak : IsSpace '\n' := .inr (.inr (.inl rfl))
  exact ⟨_, _, .more hBreak (.more hBlank (.more hBlank .none)), hRead, .none,
    .more hBlank .none⟩

theorem reads_memberLine_last (hKey : key.toList.flatMap escape = key.toList)
    (hValue : ∀ rest, Reads (.value v) (value ++ rest) rest) :
    Reads (.members [(key, v)]) (memberLine key value ('\n' :: '\x7d' :: rest))
      rest := by
  obtain ⟨name, colon, hName, hRead, hColon, hBlank⟩ :=
    memberLine_parts hKey value ('\n' :: '\x7d' :: rest)
  have hBreak : IsSpace '\n' := .inr (.inr (.inl rfl))
  have hMember := Reads.lastMember hName hRead hColon hBlank (hValue _)
    (.more hBreak .none)
  rw [String.ofList_toList] at hMember
  exact hMember

theorem reads_memberLine_next (hKey : key.toList.flatMap escape = key.toList)
    (hValue : ∀ rest, Reads (.value v) (value ++ rest) rest)
    {ms : List (String × Value)} {more : List Char}
    (hMore : Reads (.members ms) more rest) :
    Reads (.members ((key, v) :: ms)) (memberLine key value (',' :: more))
      rest := by
  obtain ⟨name, colon, hName, hRead, hColon, hBlank⟩ :=
    memberLine_parts hKey value (',' :: more)
  have hMember := Reads.nextMember hName hRead hColon hBlank (hValue _) .none
    hMore
  rw [String.ofList_toList] at hMember
  exact hMember

/-- A line adds one line feed, if neither its name nor its value holds one. -/
theorem count_memberLine (hKey : '\n' ∉ key.toList) (hValue : '\n' ∉ value)
    (rest : List Char) :
    (memberLine key value rest).count '\n' = rest.count '\n' + 1 := by
  have hName := List.count_eq_zero.mpr hKey
  have hNone := List.count_eq_zero.mpr hValue
  simp [memberLine, List.count_append, hName, hNone]

end Member

end Json

namespace Report

open Json (memberLine)

/-- An optional version as a value. -/
def versionValue : Option Version → Json.Value
  | none => .null
  | some version => .string version.text

/-- The value that a report spells, if its path reads `path`. -/
def valueOf (path : String) (report : Report) : Json.Value :=
  .object [("tool_path", .string path),
    ("python_version", .string report.version.text),
    ("legacy_version", versionValue report.legacyVersion)]

theorem valueOf_eq (path : String) (version : Version)
    (legacy : Option Version) (toolPath : Bytes) :
    valueOf path ⟨toolPath, version, legacy⟩
      = .object [("tool_path", .string path),
          ("python_version", .string version.text),
          ("legacy_version", match legacy with
            | none => .null
            | some version => .string version.text)] := by
  cases legacy <;> rfl

theorem reads_versionJson (legacy : Option Version) (rest : List Char) :
    Json.Reads (.value (versionValue legacy))
      ((versionJson legacy).toList ++ rest) rest := by
  cases legacy with
  | none => exact .null
  | some version => exact Json.reads_string version.text rest

theorem lineFeed_not_mem_versionJson (legacy : Option Version) :
    '\n' ∉ (versionJson legacy).toList := by
  cases legacy with
  | none => decide
  | some version => exact Json.lineFeed_not_mem_string version.text

/-- The text of a report, line by line. -/
theorem toList_jsonOf (path : String) (report : Report) :
    (report.jsonOf path ++ "\n").toList
      = '\x7b' :: memberLine "tool_path" (Json.string path).toList
          (',' :: memberLine "python_version"
            (Json.string report.version.text).toList
            (',' :: memberLine "legacy_version"
              (versionJson report.legacyVersion).toList
              ['\n', '\x7d', '\n'])) := by
  have hTool : "\x7b\n  \"tool_path\": ".toList
      = '\x7b' :: '\n' :: ' ' :: ' ' :: '"'
        :: ("tool_path".toList ++ ['"', ':', ' ']) := rfl
  have hVersion : ",\n  \"python_version\": ".toList
      = ',' :: '\n' :: ' ' :: ' ' :: '"'
        :: ("python_version".toList ++ ['"', ':', ' ']) := rfl
  have hLegacy : ",\n  \"legacy_version\": ".toList
      = ',' :: '\n' :: ' ' :: ' ' :: '"'
        :: ("legacy_version".toList ++ ['"', ':', ' ']) := rfl
  have hEnd : "\n\x7d".toList = ['\n', '\x7d'] := rfl
  have hBreak : "\n".toList = ['\n'] := rfl
  unfold jsonOf
  -- A literal is not to be compared with a text that has to be worked out.
  generalize Json.string path = tool
  generalize Json.string report.version.text = version
  generalize versionJson report.legacyVersion = legacy
  simp only [memberLine, String.toList_append, hTool, hVersion, hLegacy, hEnd,
    hBreak, List.append_assoc, List.cons_append, List.nil_append]

/-- The text of a report spells its value in front of one line feed. -/
theorem reads_jsonOf (path : String) (report : Report) :
    Json.Reads (.value (report.valueOf path))
      (report.jsonOf path ++ "\n").toList ['\n'] := by
  rw [toList_jsonOf]
  refine .object ?_
  refine Json.reads_memberLine_next (by decide) (Json.reads_string path) ?_
  refine Json.reads_memberLine_next (by decide)
    (Json.reads_string report.version.text) ?_
  exact Json.reads_memberLine_last (by decide)
    (reads_versionJson report.legacyVersion)

theorem count_jsonOf (path : String) (report : Report) :
    (report.jsonOf path ++ "\n").toList.count '\n' = 5 := by
  have hPath := Json.lineFeed_not_mem_string path
  have hVersion := Json.lineFeed_not_mem_string report.version.text
  have hLegacy := lineFeed_not_mem_versionJson report.legacyVersion
  rw [toList_jsonOf, List.count_cons,
    Json.count_memberLine (by decide) hPath, List.count_cons,
    Json.count_memberLine (by decide) hVersion, List.count_cons,
    Json.count_memberLine (by decide) hLegacy]
  rfl

theorem versionValue_injective : Function.Injective versionValue := by
  rintro (_ | ⟨⟨text⟩⟩) (_ | ⟨⟨other⟩⟩) h
  · rfl
  · cases h
  · cases h
  · have hText : text = other := Json.Value.string.inj h
    rw [hText]

/-- Nothing is lost in the value of a report. -/
theorem eq_of_valueOf_eq {path otherPath : String} {report other : Report}
    (h : report.valueOf path = other.valueOf otherPath) :
    path = otherPath ∧ report.version = other.version ∧
      report.legacyVersion = other.legacyVersion := by
  have hMembers := Json.Value.object.inj h
  simp only [List.cons.injEq, Prod.mk.injEq, Json.Value.string.injEq,
    true_and, and_true] at hMembers
  obtain ⟨hPath, hVersion, hLegacy⟩ := hMembers
  refine ⟨hPath, ?_, versionValue_injective hLegacy⟩
  have hEta : ∀ version : Version, version = ⟨version.text⟩ := fun _ => rfl
  rw [hEta report.version, hVersion]

theorem writeJson_of_text {path : String} (report : Report)
    (hPath : report.toolPath = Utf8.encode path) :
    (report.writeJson .unlimited).1 = .ok () ∧
      (report.writeJson .unlimited).2.written
        = Utf8.encode (report.jsonOf path ++ "\n") := by
  have hForm : report.json? = some (report.jsonOf path) := by
    simp [json?, hPath]
  rw [writeJson, hForm]
  show (Sink.unlimited.write _).1 = _ ∧ (Sink.unlimited.write _).2.written = _
  rw [Sink.write_of_unlimited rfl]
  exact ⟨rfl, by simp [Sink.unlimited]⟩

/--
A report whose path is text is written as a JSON value and one line feed.
The value is the object of its three fields and no other, there are five
lines, and no other report is written with the same bytes.
-/
theorem writeJson_spells (path : String) (version : Version)
    (legacy : Option Version) :
    let report : Report := ⟨Utf8.encode path, version, legacy⟩
    let written := report.writeJson .unlimited
    ∃ text : String,
      written.1 = .ok () ∧ written.2.written = Utf8.encode text ∧
      (∀ v, Json.Reads (.value v) text.toList ['\n'] ↔
        v = .object [("tool_path", .string path),
          ("python_version", .string version.text),
          ("legacy_version", match legacy with
            | none => .null
            | some version => .string version.text)]) ∧
      text.toList.count '\n' = 5 ∧ text.toList.getLast? = some '\n' ∧
      ∀ otherPath otherVersion otherLegacy,
        let other : Report :=
          ⟨Utf8.encode otherPath, otherVersion, otherLegacy⟩
        (other.writeJson .unlimited).2.written = written.2.written ↔
          otherPath = path ∧ otherVersion = version ∧
            otherLegacy = legacy := by
  intro report written
  obtain ⟨hOk, hWritten⟩ := writeJson_of_text report rfl
  have hRead := reads_jsonOf path report
  have hEnds : Json.Ends ['\n'] := by
    rintro c tail ⟨⟩
    decide
  refine ⟨report.jsonOf path ++ "\n", hOk, hWritten, ?_,
    count_jsonOf path report, ?_, ?_⟩
  · intro v
    rw [← valueOf_eq path version legacy report.toolPath]
    constructor
    · intro hOther
      exact (hOther.unique hRead hEnds hEnds).1
    · rintro rfl
      exact hRead
  · rw [String.toList_append]
    exact List.getLast?_concat
  · intro otherPath otherVersion otherLegacy other
    constructor
    · intro hBytes
      obtain ⟨-, hOther⟩ := writeJson_of_text other rfl
      rw [hOther, hWritten] at hBytes
      have hText := Utf8.encode_injective hBytes
      have hOtherRead := reads_jsonOf otherPath other
      rw [hText] at hOtherRead
      exact eq_of_valueOf_eq (hOtherRead.unique hRead hEnds hEnds).1
    · rintro ⟨rfl, rfl, rfl⟩
      rfl

end Report

end Preflight
