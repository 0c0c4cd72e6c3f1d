import Preflight.FileTree.Listing
import Preflight.Proofs.FileTree.Lookup
import Preflight.Proofs.Resolver

/-!
# How a search goes on

A search takes one of three steps at each candidate: it ignores what is no
regular file, skips a file that may not be executed, and stops at one that
may. What it carries from one step to the next is the first file that it
skipped. `SearchPath.search_past` says what that is behind any number of
candidates none of which is usable, and what was said about them; a search
then either stops at the candidate that follows, or has come to the end.

So the answer is the first usable candidate, else the first regular file.
What is neither might as well not be there.

## Main results

* `SearchPath.search_past` — the front of a search, up to its end.
* `Resolver.searching_law` — the answer for every name.
-/

namespace Preflight

/-- A resolution with things said before it. -/
def Resolution.preceded (said : List Event) (later : Resolution) :
    Resolution :=
  ⟨later.answer, said ++ later.events⟩

theorem Resolution.preceded_preceded (said more : List Event)
    (later : Resolution) :
    (later.preceded more).preceded said = later.preceded (said ++ more) := by
  simp [preceded]

namespace SearchPath

variable {tree : FileTree} {name : String} {plain : Option Bytes}

/-! ## Steps -/

/-- What is no regular file is passed over without a word. -/
theorem search_ignore {candidate : Bytes} (h : ¬ tree.Regular candidate)
    (rest : List Bytes) :
    search tree name plain (candidate :: rest)
      = search tree name plain rest := by
  rw [FileTree.regular_iff, Bool.not_eq_true] at h
  rw [search_cons, if_pos h]

/-- A file that may not be executed is mentioned, and kept if it is the first. -/
theorem search_skip {candidate : Bytes} (hRegular : tree.Regular candidate)
    (hUsable : ¬ tree.Usable candidate) (rest : List Bytes) :
    search tree name plain (candidate :: rest)
      = (search tree name (plain.or (some candidate)) rest).preceded
          [.skipped candidate] := by
  have hFile := FileTree.regular_iff.mp hRegular
  have hNot : tree.isExecutable candidate ≠ true := by
    intro hExecutable
    exact hUsable (FileTree.usable_iff.mpr ⟨hFile, hExecutable⟩)
  rw [search_cons, hFile, if_neg (by simp), if_neg hNot]
  cases plain <;> rfl

/-- A usable file ends the search, whatever was met before. -/
theorem search_stop {candidate : Bytes} (h : tree.Usable candidate)
    (rest : List Bytes) :
    search tree name plain (candidate :: rest)
      = ⟨some ⟨candidate, true⟩, [.resolved name candidate]⟩ := by
  obtain ⟨hFile, hExecutable⟩ := FileTree.usable_iff.mp h
  rw [search_cons, hFile, if_neg (by simp), if_pos hExecutable]

/-! ## Whole searches -/

/--
Candidates none of which is usable are passed. The first file among them is
kept, unless there was one before, and every file among them is mentioned.
-/
theorem search_past {before : List Bytes}
    (h : ∀ other ∈ before, ¬ tree.Usable other) (rest : List Bytes) :
    search tree name plain (before ++ rest)
      = (search tree name (plain.or (before.find? tree.isFile)) rest).preceded
          ((before.filter tree.isFile).map .skipped) := by
  induction before generalizing plain with
  | nil => simp [Resolution.preceded]
  | cons candidate others ih =>
    obtain ⟨hCandidate, hOthers⟩ := List.forall_mem_cons.mp h
    rw [List.cons_append]
    by_cases hRegular : tree.Regular candidate
    · have hFile := FileTree.regular_iff.mp hRegular
      have hKept : (plain.or (some candidate)).or (others.find? tree.isFile)
          = plain.or (some candidate) := by
        cases plain <;> rfl
      rw [search_skip hRegular hCandidate, ih hOthers,
        Resolution.preceded_preceded, hKept, List.find?_cons_of_pos hFile,
        List.filter_cons_of_pos hFile]
      rfl
    · have hFile := mt FileTree.regular_iff.mpr hRegular
      rw [search_ignore hRegular, ih hOthers, List.find?_cons_of_neg hFile,
        List.filter_cons_of_neg hFile]

theorem search_of_first {before : List Bytes} {path : Bytes}
    (hBefore : ∀ other ∈ before, ¬ tree.Usable other)
    (h : tree.Usable path) (behind : List Bytes) :
    search tree name plain (before ++ path :: behind)
      = ⟨some ⟨path, true⟩, (before.filter tree.isFile).map .skipped
          ++ [.resolved name path]⟩ := by
  rw [search_past hBefore, search_stop h]
  rfl

theorem search_of_none {candidates : List Bytes}
    (h : ∀ other ∈ candidates, ¬ tree.Usable other) :
    search tree name plain candidates
      = ⟨(plain.or (candidates.find? tree.isFile)).map (⟨·, false⟩),
          (candidates.filter tree.isFile).map .skipped⟩ := by
  rw [← List.append_nil candidates, search_past h, search_nil,
    List.append_nil, Resolution.preceded, List.append_nil]

/-- What is no regular file makes no difference at all. -/
theorem search_insert {odd : Bytes} (h : ¬ tree.Regular odd)
    (before behind : List Bytes) :
    search tree name plain (before ++ odd :: behind)
      = search tree name plain (before ++ behind) := by
  induction before generalizing plain with
  | nil => exact search_ignore h behind
  | cons candidate others ih =>
    rw [List.cons_append, List.cons_append, search_cons, search_cons]
    simp only [ih]

end SearchPath

/-- Of some paths one is the first that is usable, unless none of them is. -/
theorem FileTree.exists_firstUsable_or (tree : FileTree) (paths : List Bytes) :
    (∃ path, tree.FirstUsable paths path) ∨
      ∀ path ∈ paths, ¬ tree.Usable path := by
  induction paths with
  | nil => exact .inr nofun
  | cons first rest ih =>
    by_cases hFirst : tree.Usable first
    · exact .inl ⟨first, firstUsable_cons.mpr (.inl ⟨hFirst, rfl⟩)⟩
    · cases ih with
      | inl hRest =>
        obtain ⟨path, hPath⟩ := hRest
        exact .inl ⟨path, firstUsable_cons.mpr (.inr ⟨hFirst, hPath⟩)⟩
      | inr hRest => exact .inr (List.forall_mem_cons.mpr ⟨hFirst, hRest⟩)

namespace Resolver

variable {tree : FileTree} {entries : List Bytes} {name : String}

/-! ## Names and paths -/

/-- A name that is looked for: there is one, and it is no path. -/
def Bare (name : String) : Prop := name ≠ "" ∧ '/' ∉ name.toList

/-- A name is empty, a path, or looked for. -/
theorem empty_or_path_or_bare (name : String) :
    name = "" ∨ '/' ∈ name.toList ∨ Bare name := by
  by_cases hEmpty : name = ""
  · exact .inl hEmpty
  · by_cases hSlash : '/' ∈ name.toList
    · exact .inr (.inl hSlash)
    · exact .inr (.inr ⟨hEmpty, hSlash⟩)

theorem searching_of_path (h : '/' ∈ name.toList) (entries : List Bytes) :
    searching tree entries name = ⟨direct tree name, []⟩ := by
  have hName : name ≠ "" := by
    rintro rfl
    cases h
  rw [searching, if_neg hName, if_pos (List.contains_iff_mem.mpr h)]

theorem candidates_of_bare (h : Bare name) (entries : List Bytes) :
    candidates entries name
      = entries.map (SearchPath.join · (Utf8.encode name)) := by
  rw [candidates, if_neg h.1, if_neg (mt List.contains_iff_mem.mp h.2)]

theorem searching_of_bare (h : Bare name) :
    searching tree entries name
      = SearchPath.search tree name none (candidates entries name) := by
  rw [searching, if_neg h.1, if_neg (mt List.contains_iff_mem.mp h.2),
    candidates_of_bare h]

theorem searching_eq_search (h : Bare name) (entries : List Bytes) :
    searching tree entries name
      = SearchPath.search tree name none
          (entries.map (SearchPath.join · (Utf8.encode name))) := by
  rw [searching_of_bare h, candidates_of_bare h]

theorem mem_candidates_of_answer (hName : Bare name) {found : ResolvedTool}
    (h : (searching tree entries name).answer = some found) :
    found.path ∈ candidates entries name := by
  rw [searching_of_bare hName] at h
  exact (SearchPath.mem_of_answer_search h).resolve_right nofun

theorem searching_of_none (hName : Bare name)
    (h : ∀ path ∈ candidates entries name, ¬ tree.Usable path) :
    searching tree entries name
      = ⟨((candidates entries name).find? tree.isFile).map (⟨·, false⟩),
          ((candidates entries name).filter tree.isFile).map .skipped⟩ := by
  rw [searching_of_bare hName]
  exact SearchPath.search_of_none h

/-- A directory without a file by the name is as good as none. -/
theorem searching_insert (hName : Bare name) {odd : Bytes}
    (h : ¬ tree.Regular (SearchPath.join odd (Utf8.encode name)))
    (before behind : List Bytes) :
    searching tree (before ++ odd :: behind) name
      = searching tree (before ++ behind) name := by
  rw [searching_of_bare hName, searching_of_bare hName,
    candidates_of_bare hName, candidates_of_bare hName, List.map_append,
    List.map_cons, SearchPath.search_insert h, List.map_append]

theorem direct_eq_some_iff {found : ResolvedTool} :
    direct tree name = some found ↔
      ∃ mode contents, tree.find (Utf8.encode name) = .ok (.file mode contents)
        ∧ found = ⟨Utf8.encode name, mode.executable⟩ := by
  cases hFind : tree.find (Utf8.encode name) with
  | error cause => simp [direct, FileTree.isFile, hFind]
  | ok node =>
    cases node <;> simp [direct, FileTree.isFile, FileTree.isExecutable,
      hFind, Node.isFile, Node.executable, eq_comm]

/-- What is found is a regular file, and executable exactly if it is said to be. -/
theorem find_of_answer {found : ResolvedTool}
    (h : (searching tree entries name).answer = some found) :
    ∃ mode contents, tree.find found.path = .ok (.file mode contents) ∧
      found.executable = mode.executable := by
  rcases empty_or_path_or_bare name with rfl | hPath | hBare
  · cases h
  · rw [searching_of_path hPath] at h
    obtain ⟨mode, contents, hFind, rfl⟩ := direct_eq_some_iff.mp h
    exact ⟨mode, contents, hFind, rfl⟩
  · rcases tree.exists_firstUsable_or (candidates entries name)
      with ⟨path, hFirst⟩ | hNone
    · have hUsable : tree.Usable path := by
        obtain ⟨-, -, -, hUsable, -⟩ := hFirst
        exact hUsable
      rw [searching_of_bare hBare,
        SearchPath.answer_search_iff.mpr hFirst] at h
      obtain ⟨mode, contents, hFind, hMode⟩ := hUsable
      cases h
      exact ⟨mode, contents, hFind, hMode.symm⟩
    · rw [searching_of_none hBare hNone] at h
      obtain ⟨path, hPath, rfl⟩ := Option.map_eq_some_iff.mp h
      have hRegular := FileTree.regular_iff.mpr (List.find?_some hPath)
      obtain ⟨mode, contents, hFind⟩ := hRegular
      have hMode : mode.executable = false := by
        rw [← Bool.not_eq_true]
        intro hMode
        exact hNone path (List.mem_of_find?_eq_some hPath)
          ⟨mode, contents, hFind, hMode⟩
      exact ⟨mode, contents, hFind, hMode.symm⟩

/-! ## The least candidate -/

/-- The file that a name stands for in one of the directories. -/
def candidate (entries : List Bytes) (name : String)
    (i : Fin entries.length) : Bytes :=
  SearchPath.join entries[i] (Utf8.encode name)

theorem mem_candidates_iff (hName : Bare name) {path : Bytes} :
    path ∈ candidates entries name ↔
      ∃ i, candidate entries name i = path := by
  rw [candidates_of_bare hName, List.mem_map]
  constructor
  · rintro ⟨entry, hEntry, hPath⟩
    obtain ⟨i, hi, rfl⟩ := List.mem_iff_getElem.mp hEntry
    exact ⟨⟨i, hi⟩, hPath⟩
  · rintro ⟨i, hPath⟩
    exact ⟨entries[i], List.getElem_mem i.isLt, hPath⟩

/-- The least candidate of a kind is the first of the kind. -/
theorem find?_eq_candidate (hName : Bare name) {kind : Bytes → Bool}
    {i : Fin entries.length}
    (h : kind (candidate entries name i) = true)
    (hLeast : ∀ j < i, ¬ kind (candidate entries name j) = true) :
    (candidates entries name).find? kind
      = some (candidate entries name i) := by
  rw [candidates_of_bare hName, List.find?_eq_some_iff_getElem]
  refine ⟨h, i, by simp, List.getElem_map _, ?_⟩
  intro j hj
  have hNot := hLeast ⟨j, Nat.lt_trans hj i.isLt⟩ hj
  rw [Bool.not_eq_true] at hNot
  rw [List.getElem_map, Bool.not_eq_true']
  exact hNot

theorem firstUsable_candidate (hName : Bare name) {i : Fin entries.length}
    (h : tree.Usable (candidate entries name i))
    (hLeast : ∀ j < i, ¬ tree.Usable (candidate entries name j)) :
    tree.FirstUsable (candidates entries name)
      (candidate entries name i) := by
  let kind : Bytes → Bool := fun path =>
    tree.isFile path && tree.isExecutable path
  have hKind : ∀ {path}, kind path = true ↔ tree.Usable path := by
    intro path
    rw [FileTree.usable_iff]
    exact Bool.and_eq_true_iff
  have hFind := find?_eq_candidate hName (hKind.mpr h)
    fun j hj => mt hKind.mp (hLeast j hj)
  obtain ⟨-, before, behind, hSplit, hBefore⟩ :=
    List.find?_eq_some_iff_append.mp hFind
  refine ⟨before, behind, hSplit, h, ?_⟩
  intro other hOther hUsable
  have hNot := hBefore other hOther
  rw [hKind.mpr hUsable] at hNot
  cases hNot

/--
The answer for every name. One that is looked for is answered with the least
of its candidates that is usable, whatever lies before it; if there is none,
with the least that is a regular file; if there is none of these either, not
at all. Whatever else a directory holds by the name, and be it executable,
makes no difference and is not what is found. A path is answered with itself
if it leads to a regular file, whatever the directories are, and the empty
name never.
-/
theorem searching_law (tree : FileTree) (entries : List Bytes)
    (name : String) :
    let answer := (searching tree entries name).answer
    (name ≠ "" → '/' ∉ name.toList →
      let path := candidate entries name
      (∀ i, tree.Usable (path i) → (∀ j < i, ¬ tree.Usable (path j)) →
        answer = some ⟨path i, true⟩) ∧
      ((∀ i, ¬ tree.Usable (path i)) →
        ∀ i, tree.Regular (path i) → (∀ j < i, ¬ tree.Regular (path j)) →
          answer = some ⟨path i, false⟩) ∧
      ((∀ i, ¬ tree.Regular (path i)) → answer = none) ∧
      ∀ before odd behind, entries = before ++ odd :: behind →
        let other := SearchPath.join odd (Utf8.encode name)
        ((∃ mode, tree.find other = .ok (.directory mode)) ∨
          (∃ mode, tree.find other = .ok (.special mode)) ∨
          ∃ cause, tree.find other = .error cause) →
        searching tree entries name = searching tree (before ++ behind) name ∧
          ∀ found, answer = some found → found.path ≠ other) ∧
    ('/' ∈ name.toList →
      (∀ others, (searching tree others name).answer = answer) ∧
      ∀ found, answer = some found ↔
        ∃ mode contents,
          tree.find (Utf8.encode name) = .ok (.file mode contents) ∧
          found = ⟨Utf8.encode name, mode &&& 0o111 != 0⟩) ∧
    (name = "" → answer = none) := by
  intro answer
  refine ⟨?_, ?_, ?_⟩
  · intro hEmpty hSlash path
    have hBare : Bare name := ⟨hEmpty, hSlash⟩
    have hPath : ∀ other ∈ candidates entries name, ∃ i, path i = other :=
      fun _ => (mem_candidates_iff hBare).mp
    refine ⟨?_, ?_, ?_, ?_⟩
    · intro i hUsable hLeast
      have hFirst := firstUsable_candidate hBare hUsable hLeast
      show (searching tree entries name).answer = _
      rw [searching_of_bare hBare]
      exact SearchPath.answer_search_iff.mpr hFirst
    · intro hNone i hRegular hLeast
      have hFind := find?_eq_candidate hBare (FileTree.regular_iff.mp hRegular)
        fun j hj => mt FileTree.regular_iff.mpr (hLeast j hj)
      show (searching tree entries name).answer = _
      rw [searching_of_none hBare, hFind]
      · rfl
      · intro other hOther
        obtain ⟨j, rfl⟩ := hPath other hOther
        exact hNone j
    · intro hNone
      cases hAnswer : answer with
      | none => rfl
      | some found =>
        obtain ⟨mode, contents, hFind, -⟩ := find_of_answer hAnswer
        obtain ⟨i, hi⟩ := hPath _ (mem_candidates_of_answer hBare hAnswer)
        rw [← hi] at hFind
        exact absurd ⟨mode, contents, hFind⟩ (hNone i)
    · intro before odd behind hEntries other hOther
      have hOdd := FileTree.not_regular_iff.mpr hOther
      constructor
      · rw [hEntries]
        exact searching_insert hBare hOdd before behind
      · intro found hFound hSame
        obtain ⟨mode, contents, hFind, -⟩ := find_of_answer hFound
        rw [hSame] at hFind
        exact hOdd ⟨mode, contents, hFind⟩
  · intro hSlash
    constructor
    · intro others
      show _ = (searching tree entries name).answer
      rw [searching_of_path hSlash, searching_of_path hSlash]
    · intro found
      show (searching tree entries name).answer = _ ↔ _
      rw [searching_of_path hSlash]
      exact direct_eq_some_iff
  · rintro rfl
    rfl

/-- A loop, a directory and a file that is not executable do not end a search. -/
theorem searching_past_decoys :
    let tree := FileTree.ofEntries [
      ⟨Utf8.encode "a/ruby", .link (Utf8.encode "ruby")⟩,
      ⟨Utf8.encode "b/ruby", .directory 0o755⟩,
      ⟨Utf8.encode "c/ruby", .file 0o644 .silent⟩,
      ⟨Utf8.encode "d/ruby", .link (Utf8.encode "../ruby3")⟩,
      ⟨Utf8.encode "ruby3", .file 0o001 .silent⟩]
    let entries := [Utf8.encode "a", Utf8.encode "b", Utf8.encode "c",
      Utf8.encode "d"]
    (searching tree entries "ruby").answer
      = some ⟨Utf8.encode "d/ruby", true⟩ := by
  intro tree entries
  have hDecoys : ∀ i < (3 : Fin entries.length),
      ¬ (tree.isFile (candidate entries "ruby" i) = true ∧
        tree.isExecutable (candidate entries "ruby" i) = true) := by
    decide +kernel
  have hRuby : tree.isFile (candidate entries "ruby" 3) = true ∧
      tree.isExecutable (candidate entries "ruby" 3) = true := by
    decide +kernel
  have hLaw := (searching_law tree entries "ruby").1 (by decide) (by decide)
  apply hLaw.1 3 (FileTree.usable_iff.mpr hRuby)
  intro i hi hUsable
  exact hDecoys i hi (FileTree.usable_iff.mp hUsable)

end Resolver

end Preflight
