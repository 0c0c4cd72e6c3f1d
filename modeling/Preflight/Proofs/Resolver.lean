import Preflight.Proofs.Text.Utf8
import Preflight.Resolver

/-!
# Which paths a resolver answers with

A search makes up no path. What it answers with is one of the candidates it
was given, and those are made of an entry of the search path and the name.
A path that is not text can therefore only come from an entry that is not.

A search goes past files that may not be executed, and it remembers one of
them, but neither has a say in whether it ends at a file that may be: it does
at the first of its candidates that is usable.

## Main results

* `Resolver.isText_of_searching` — entries that are text lead to paths that
  are text.
* `Resolver.searching_iff_resolves` — an executable file is the answer if it
  is the first usable candidate, and only then.
-/

namespace Preflight

namespace SearchPath

/-- A search answers with a candidate, or with a file met before. -/
theorem mem_of_answer_search {tree : FileTree} {name : String}
    {plain : Option Bytes} {candidates : List Bytes} {found : ResolvedTool}
    (h : (search tree name plain candidates).answer = some found) :
    found.path ∈ candidates ∨ plain = some found.path := by
  induction candidates generalizing plain with
  | nil =>
    obtain ⟨path, rfl, rfl⟩ := Option.map_eq_some_iff.mp h
    exact .inr rfl
  | cons candidate rest ih =>
    rw [search_cons] at h
    split at h
    · exact (ih h).imp_left (List.mem_cons_of_mem candidate)
    · split at h
      · cases h
        exact .inl List.mem_cons_self
      · cases ih h with
        | inl hRest => exact .inl (List.mem_cons_of_mem candidate hRest)
        | inr hPlain =>
          -- The first file met stays; the candidate is it if none was.
          cases plain with
          | none =>
            cases hPlain
            exact .inl List.mem_cons_self
          | some first => exact .inr hPlain

theorem isText_join {directory : Bytes} (h : Utf8.IsText directory)
    (name : String) : Utf8.IsText (join directory (Utf8.encode name)) := by
  obtain ⟨text, rfl⟩ := h
  unfold join
  split
  · exact ⟨text ++ name, (Utf8.encode_append text name).symm⟩
  · refine ⟨text ++ ("/" ++ name), ?_⟩
    rw [Utf8.encode_append, Utf8.encode_append]
    rfl

end SearchPath

namespace Resolver

theorem path_of_direct {tree : FileTree} {name : String} {found : ResolvedTool}
    (h : direct tree name = some found) : found.path = Utf8.encode name := by
  simp only [direct] at h
  split at h
  · cases h
    rfl
  · cases h

/-- A search path of text leads to paths that are text. -/
theorem isText_of_searching {tree : FileTree} {entries : List Bytes}
    {name : String} {found : ResolvedTool}
    (hEntries : ∀ entry ∈ entries, Utf8.IsText entry)
    (h : (searching tree entries name).answer = some found) :
    Utf8.IsText found.path := by
  unfold searching at h
  split at h
  · cases h
  · split at h
    · rw [path_of_direct h]
      exact Utf8.isText_encode name
    · have hMem := (SearchPath.mem_of_answer_search h).resolve_right nofun
      obtain ⟨entry, hEntry, hPath⟩ := List.mem_map.mp hMem
      rw [← hPath]
      exact SearchPath.isText_join (hEntries entry hEntry) name

end Resolver

/-! ## The first candidate that is usable -/

namespace FileTree

variable {tree : FileTree} {path : Bytes}

/-- A path leads to a regular file that anyone at all may execute. -/
def Usable (tree : FileTree) (path : Bytes) : Prop :=
  ∃ mode contents, tree.find path = .ok (.file mode contents) ∧
    mode.executable = true

theorem usable_iff :
    tree.Usable path ↔
      tree.isFile path = true ∧ tree.isExecutable path = true := by
  unfold Usable isFile isExecutable
  cases tree.find path with
  | error cause => simp
  | ok node => cases node <;> simp [Node.isFile, Node.executable]

/-- The first of some paths that is usable. -/
def FirstUsable (tree : FileTree) (paths : List Bytes) (path : Bytes) : Prop :=
  ∃ before behind, paths = before ++ path :: behind ∧ tree.Usable path ∧
    ∀ other ∈ before, ¬ tree.Usable other

theorem not_firstUsable_nil : ¬ tree.FirstUsable [] path := by
  rintro ⟨before, behind, hPaths, -⟩
  cases before <;> cases hPaths

theorem firstUsable_cons {first : Bytes} {rest : List Bytes} :
    tree.FirstUsable (first :: rest) path ↔
      tree.Usable first ∧ path = first ∨
        ¬ tree.Usable first ∧ tree.FirstUsable rest path := by
  constructor
  · rintro ⟨before, behind, hPaths, hUsable, hBefore⟩
    cases before with
    | nil =>
      obtain ⟨rfl, -⟩ := List.cons.inj hPaths
      exact .inl ⟨hUsable, rfl⟩
    | cons other before =>
      obtain ⟨rfl, hRest⟩ := List.cons.inj hPaths
      obtain ⟨hFirst, hOthers⟩ := List.forall_mem_cons.mp hBefore
      exact .inr ⟨hFirst, before, behind, hRest, hUsable, hOthers⟩
  · rintro (⟨hUsable, rfl⟩ | ⟨hFirst, before, behind, rfl, hUsable, hBefore⟩)
    · exact ⟨[], rest, rfl, hUsable, nofun⟩
    · exact ⟨first :: before, behind, rfl, hUsable,
        List.forall_mem_cons.mpr ⟨hFirst, hBefore⟩⟩

end FileTree

/-- Whatever plain file was met before, a search ends at the first usable one. -/
theorem SearchPath.answer_search_iff {tree : FileTree} {name : String}
    {plain : Option Bytes} {candidates : List Bytes} {path : Bytes} :
    (search tree name plain candidates).answer = some ⟨path, true⟩ ↔
      tree.FirstUsable candidates path := by
  induction candidates generalizing plain with
  | nil =>
    have hPlain : (plain.map fun path => ResolvedTool.mk path false)
        ≠ some ⟨path, true⟩ := by
      cases plain <;> simp
    exact iff_of_false hPlain FileTree.not_firstUsable_nil
  | cons candidate rest ih =>
    rw [search_cons, FileTree.firstUsable_cons, FileTree.usable_iff]
    by_cases hFile : tree.isFile candidate = false
    · rw [if_pos hFile, ih]
      simp [hFile]
    · rw [if_neg hFile]
      by_cases hExecutable : tree.isExecutable candidate = true
      · rw [if_pos hExecutable]
        simp [hFile, hExecutable, eq_comm]
      · rw [if_neg hExecutable]
        show (search tree name _ rest).answer = _ ↔ _
        rw [ih]
        simp [hExecutable]

namespace Resolver

/-- The files that a name may stand for, in order. A path stands for itself. -/
def candidates (entries : List Bytes) (name : String) : List Bytes :=
  if name = "" then []
  else if name.toList.contains '/' then [Utf8.encode name]
  else entries.map (SearchPath.join · (Utf8.encode name))

/-- A name resolves to the first file it may stand for that is usable. -/
def Resolves (tree : FileTree) (entries : List Bytes) (name : String)
    (path : Bytes) : Prop :=
  tree.FirstUsable (candidates entries name) path

theorem searching_iff_resolves {tree : FileTree} {entries : List Bytes}
    {name : String} {path : Bytes} :
    (searching tree entries name).answer = some ⟨path, true⟩ ↔
      Resolves tree entries name path := by
  unfold searching Resolves candidates
  by_cases hEmpty : name = ""
  · rw [if_pos hEmpty, if_pos hEmpty]
    exact iff_of_false nofun FileTree.not_firstUsable_nil
  · rw [if_neg hEmpty, if_neg hEmpty]
    by_cases hSlash : name.toList.contains '/' = true
    · rw [if_pos hSlash, if_pos hSlash, FileTree.firstUsable_cons,
        FileTree.usable_iff]
      simp only [direct, FileTree.not_firstUsable_nil, and_false, or_false]
      by_cases hFile : tree.isFile (Utf8.encode name) = true
      · rw [if_pos hFile, Option.some.injEq, ResolvedTool.mk.injEq]
        constructor
        · rintro ⟨rfl, hExecutable⟩
          exact ⟨⟨hFile, hExecutable⟩, rfl⟩
        · rintro ⟨⟨-, hExecutable⟩, rfl⟩
          exact ⟨rfl, hExecutable⟩
      · rw [if_neg hFile]
        exact iff_of_false nofun fun h => hFile h.1.1
    · rw [if_neg hSlash, if_neg hSlash]
      exact SearchPath.answer_search_iff

end Resolver

end Preflight
