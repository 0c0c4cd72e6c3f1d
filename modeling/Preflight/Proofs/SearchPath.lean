import Preflight.Machine
import Preflight.Proofs.FileTree.Spelling
import Preflight.Proofs.Reported

/-!
# Search paths as lists

A search path writes down a list of directories with a colon between every
two of them. There is nothing else to it: no colon can be quoted, and none is
passed over, be it the first, the last or one of several in a row. So reading
undoes writing for every list but the empty one, as long as no directory has
a colon in its own name, and writing undoes reading for every search path.

The exception is why a search path that is set and one that is not are told
apart. The empty text lists one directory, and it is the empty one, which is
where relative paths start from. Only a search path that is not set lists
none.

## Main results

* `SearchPath.entries_eq_iff` — what a search path has to be to list some
  directories.
* `Machine.resolver_of_searchPath` — what a machine finds with it.
-/

namespace Preflight

namespace SearchPath

/-- The search path that lists some directories. -/
def ofEntries (entries : List Bytes) : Bytes := [colon].intercalate entries

/-! ## Byte by byte -/

theorem entries_colon (path : Bytes) :
    entries (some (colon :: path)) = [] :: entries (some path) := by
  show (colon :: path).splitOn colon = [] :: path.splitOn colon
  simp [List.splitOn_cons_eq_if_modifyHead]

/-- Any other byte goes to the first directory. -/
theorem entries_byte {byte : UInt8} (h : byte ≠ colon) (path : Bytes) :
    ∃ first others, entries (some path) = first :: others ∧
      entries (some (byte :: path)) = (byte :: first) :: others := by
  obtain ⟨first, others, hSplit⟩ :=
    List.exists_cons_of_ne_nil (List.splitOn_ne_nil colon path)
  refine ⟨first, others, hSplit, ?_⟩
  show (byte :: path).splitOn colon = _
  simp [List.splitOn_cons_eq_if_modifyHead, h, hSplit]

/-- No directory that is listed has a colon in it. -/
theorem colon_not_mem (path : Bytes) :
    ∀ entry ∈ entries (some path), colon ∉ entry := by
  induction path with
  | nil => simp [entries]
  | cons byte path ih =>
    by_cases hByte : byte = colon
    · subst hByte
      rw [entries_colon]
      exact List.forall_mem_cons.mpr ⟨List.not_mem_nil, ih⟩
    · obtain ⟨first, others, hPath, hCons⟩ := entries_byte hByte path
      rw [hPath] at ih
      rw [hCons]
      obtain ⟨hFirst, hOthers⟩ := List.forall_mem_cons.mp ih
      refine List.forall_mem_cons.mpr ⟨?_, hOthers⟩
      exact List.not_mem_cons_of_ne_of_not_mem (Ne.symm hByte) hFirst

/-- A colon divides two directories, so there is one more of them. -/
theorem length_entries (path : Bytes) :
    (entries (some path)).length = path.count colon + 1 := by
  induction path with
  | nil => rfl
  | cons byte path ih =>
    by_cases hByte : byte = colon
    · subst hByte
      rw [entries_colon, List.length_cons, ih, List.count_cons_self]
    · obtain ⟨first, others, hPath, hCons⟩ := entries_byte hByte path
      rw [List.count_cons_of_ne hByte, ← ih, hPath, hCons]
      rfl

/-! ## Reading and writing -/

theorem ofEntries_entries (path : Bytes) :
    ofEntries (entries (some path)) = path :=
  List.intercalate_splitOn colon

theorem entries_ofEntries {entries : List Bytes} (hSome : entries ≠ [])
    (h : ∀ entry ∈ entries, colon ∉ entry) :
    SearchPath.entries (some (ofEntries entries)) = entries :=
  List.splitOn_intercalate colon h hSome

/-- A search path lists some directories exactly if it is how they are written. -/
theorem entries_eq_iff {path : Bytes} {entries : List Bytes} :
    SearchPath.entries (some path) = entries ↔
      entries ≠ [] ∧ (∀ entry ∈ entries, colon ∉ entry) ∧
        ofEntries entries = path := by
  constructor
  · rintro rfl
    exact ⟨List.splitOn_ne_nil colon path, colon_not_mem path,
      ofEntries_entries path⟩
  · rintro ⟨hSome, hColon, rfl⟩
    exact entries_ofEntries hSome hColon

end SearchPath

/-! ## Searches -/

namespace Resolver

variable {tree : FileTree} {name : String}

/-- Where nothing is searched nothing is found, and nothing said. -/
theorem searching_nil (hName : Bare name) :
    searching tree [] name = ⟨none, []⟩ := by
  rw [searching_eq_search hName]
  rfl

/-- In the empty directory alone a name is found where it is as a path. -/
theorem answer_searching_empty (hName : Bare name) :
    (searching tree [[]] name).answer = direct tree name := by
  rw [searching_eq_search hName, List.map_cons, List.map_nil,
    SearchPath.join_nil, SearchPath.search_cons, direct]
  cases tree.isFile (Utf8.encode name) with
  | false => rfl
  | true => cases tree.isExecutable (Utf8.encode name) <;> rfl

end Resolver

namespace Machine

/--
Directories without a colon are read back from the search path that lists
them, the empty ones too and in their order, so that a machine with this
search path answers every name as a search in these directories does, and
says the same. And this is all that search paths are: what is read from one
has no colon, lists it again, and is one directory more than it has colons.
Without a search path there are no directories, and nothing is found by a
name that is looked for. The empty search path has one, and a name is looked
for where relative paths start: what is found is the regular file that the
name leads to by itself, if there is one, and the directory there need only
have a file by that name.
-/
theorem resolver_of_searchPath :
    (∀ entries : List Bytes, entries ≠ [] →
      (∀ entry ∈ entries, SearchPath.colon ∉ entry) →
      let path := SearchPath.ofEntries entries
      SearchPath.entries (some path) = entries ∧
      ∀ tree name, (Machine.mk tree (some path)).resolver name
        = Resolver.searching tree entries name) ∧
    (∀ path : Bytes,
      let entries := SearchPath.entries (some path)
      (∀ entry ∈ entries, SearchPath.colon ∉ entry) ∧
      SearchPath.ofEntries entries = path ∧
      entries.length = path.count SearchPath.colon + 1) ∧
    (SearchPath.entries none = [] ∧
      ∀ tree name, Resolver.Bare name →
        (Machine.mk tree none).resolver name = ⟨none, []⟩) ∧
    SearchPath.entries (some []) = [[]] ∧
    ∀ tree name, Resolver.Bare name →
      let path := Utf8.encode name
      let answer := ((Machine.mk tree (some [])).resolver name).answer
      (∀ found, answer = some found ↔
        ∃ mode contents, tree.find path = .ok (.file mode contents) ∧
          found = ⟨path, mode.executable⟩) ∧
      ∀ mode contents, Path.IsName path → tree.isTooLong path = false →
        tree.node? (.within .root path) = some (.file mode contents) →
          answer = some ⟨path, mode.executable⟩ := by
  refine ⟨?_, ?_, ⟨rfl, ?_⟩, rfl, ?_⟩
  · intro entries hSome hColon path
    have hEntries : SearchPath.entries (some path) = entries :=
      SearchPath.entries_eq_iff.mpr ⟨hSome, hColon, rfl⟩
    refine ⟨hEntries, ?_⟩
    intro tree name
    show Resolver.searching tree (SearchPath.entries (some path)) name = _
    rw [hEntries]
  · intro path entries
    obtain ⟨-, hColon, hJoin⟩ := SearchPath.entries_eq_iff.mp
      (show SearchPath.entries (some path) = entries from rfl)
    exact ⟨hColon, hJoin, SearchPath.length_entries path⟩
  · intro tree name hName
    exact Resolver.searching_nil hName
  · intro tree name hName path answer
    have hAnswer : answer = Resolver.direct tree name :=
      Resolver.answer_searching_empty hName
    constructor
    · intro found
      rw [hAnswer]
      exact Resolver.direct_eq_some_iff
    · intro mode contents hPath hShort hNode
      rw [hAnswer]
      exact Resolver.direct_eq_some_iff.mpr
        ⟨mode, contents, FileTree.find_of_member hPath hShort hNode, rfl⟩

/-- A colon at either end adds the directory that an empty search path has. -/
theorem resolver_of_searchPath_between_colons :
    let ruby := Utf8.encode "ruby"
    let tree := FileTree.ofEntries [⟨ruby, .file 0o755 .silent⟩]
    let path := Utf8.encode ":bin:"
    (Machine.mk tree (some path)).resolver "ruby"
        = Resolver.searching tree [[], Utf8.encode "bin", []] "ruby" ∧
      (Machine.mk tree none).resolver "ruby" = ⟨none, []⟩ ∧
      ((Machine.mk tree (some [])).resolver "ruby").answer
        = some ⟨ruby, true⟩ := by
  intro ruby tree path
  obtain ⟨hListed, -, ⟨-, hUnset⟩, -, hEmpty⟩ := resolver_of_searchPath
  have hBare : Resolver.Bare "ruby" := ⟨by decide, by decide⟩
  have hName : Path.IsName ruby :=
    ⟨by unfold Path.Idle; decide +kernel, by decide +kernel,
      by decide +kernel, by decide +kernel, by decide +kernel⟩
  have hColon : ∀ entry ∈ [[], Utf8.encode "bin", []],
      SearchPath.colon ∉ entry := by
    decide +kernel
  refine ⟨?_, hUnset tree "ruby" hBare, ?_⟩
  · exact (hListed [[], Utf8.encode "bin", []] (by simp) hColon).2 tree "ruby"
  · exact (hEmpty tree "ruby" hBare).2 0o755 .silent hName (by decide +kernel)
      (FileTree.node?_insert_self _ _ _ _)

end Machine

end Preflight
