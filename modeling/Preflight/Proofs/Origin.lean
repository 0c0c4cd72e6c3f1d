import Mathlib.Data.List.Forall2
import Mathlib.Data.Nat.Find
import Preflight.Proofs.FileTree.Spelling
import Preflight.Proofs.Search

/-!
# Where an answer comes from

The more directories are searched, the better the answer gets: a file that
may not be executed is better than none, and one that may be is better than
that. This is the only way in which an answer can change. Once there is one,
it gives way to a better one alone, and the best is never given up.

So an answer comes from one of the directories: it is there as soon as the
directories up to that one are searched, and not before. To tell which one it
is, and what is found, only the grade of the answer counts that each front of
the list leads to, and that is a matter of what the candidates lead to and
not of how they are spelled.

## Main results

* `SearchPath.answer_search_append_or` — more candidates leave an answer
  alone or better it.
* `Resolver.exists_comesFrom`, `Resolver.ComesFrom.unique` — an answer comes
  from one directory.
* `Resolver.searching_respelled` — directories may be spelled with more
  slashes.
-/

namespace Preflight

/-- How good an answer is. -/
def ResolvedTool.grade : Option ResolvedTool → Nat
  | none => 0
  | some ⟨_, false⟩ => 1
  | some ⟨_, true⟩ => 2

open ResolvedTool (grade)

theorem ResolvedTool.executable_of_grade {one other : Option ResolvedTool}
    (h : grade one = grade other) :
    one.map (·.executable) = other.map (·.executable) := by
  match one, other with
  | none, none => rfl
  | some ⟨_, false⟩, some ⟨_, false⟩ => rfl
  | some ⟨_, true⟩, some ⟨_, true⟩ => rfl

/-- A path leads to no regular file, to one that is not usable, or to one that is. -/
theorem FileTree.odd_or_plain_or_usable (tree : FileTree) (path : Bytes) :
    ¬ tree.Regular path ∨ tree.Regular path ∧ ¬ tree.Usable path ∨
      tree.Usable path := by
  by_cases hUsable : tree.Usable path
  · exact .inr (.inr hUsable)
  · by_cases hRegular : tree.Regular path
    · exact .inr (.inl ⟨hRegular, hUsable⟩)
    · exact .inl hRegular

namespace SearchPath

variable {tree : FileTree} {name : String} {plain : Option Bytes}

/-! ## A search and its fronts -/

/-- A search goes on from the answer that its front leads to. -/
theorem answer_search_append (front back : List Bytes) :
    (search tree name plain (front ++ back)).answer =
      match (search tree name plain front).answer with
      | some ⟨path, true⟩ => some ⟨path, true⟩
      | some ⟨path, false⟩ => (search tree name (some path) back).answer
      | none => (search tree name none back).answer := by
  induction front generalizing plain with
  | nil => cases plain <;> rfl
  | cons candidate front ih =>
    rw [List.cons_append]
    rcases tree.odd_or_plain_or_usable candidate
      with hOdd | ⟨hRegular, hPlain⟩ | hUsable
    · rw [search_ignore hOdd, search_ignore hOdd]
      exact ih
    · rw [search_skip hRegular hPlain, search_skip hRegular hPlain]
      exact ih
    · rw [search_stop hUsable, search_stop hUsable]

/-- A file that may not be executed is only given up for one that may. -/
theorem answer_search_some (tree : FileTree) (name : String) (path : Bytes)
    (candidates : List Bytes) :
    (search tree name (some path) candidates).answer = some ⟨path, false⟩ ∨
      ∃ better, (search tree name (some path) candidates).answer
        = some ⟨better, true⟩ := by
  cases tree.exists_firstUsable_or candidates with
  | inl hFirst =>
    obtain ⟨better, hBetter⟩ := hFirst
    exact .inr ⟨better, answer_search_iff.mpr hBetter⟩
  | inr hNone =>
    rw [search_of_none hNone]
    exact .inl rfl

/-- More candidates leave an answer alone or better it. -/
theorem answer_search_append_or (front back : List Bytes) :
    (search tree name plain (front ++ back)).answer
        = (search tree name plain front).answer ∨
      grade (search tree name plain front).answer
        < grade (search tree name plain (front ++ back)).answer := by
  rw [answer_search_append]
  match (search tree name plain front).answer with
  | some ⟨path, true⟩ => exact .inl rfl
  | some ⟨path, false⟩ =>
    cases answer_search_some tree name path back with
    | inl hSame => exact .inl hSame
    | inr hBetter =>
      obtain ⟨better, hBetter⟩ := hBetter
      right
      show 1 < grade (search tree name (some path) back).answer
      rw [hBetter]
      exact Nat.one_lt_two
  | none =>
    show (search tree name none back).answer = none ∨
      0 < grade (search tree name none back).answer
    match (search tree name none back).answer with
    | none => exact .inl rfl
    | some ⟨path, false⟩ => exact .inr Nat.one_pos
    | some ⟨path, true⟩ => exact .inr Nat.two_pos

theorem answer_search_singleton (plain : Option Bytes) (candidate : Bytes) :
    (search tree name plain [candidate]).answer
        = (search tree name plain []).answer ∨
      ∃ executable, (search tree name plain [candidate]).answer
        = some ⟨candidate, executable⟩ := by
  rcases tree.odd_or_plain_or_usable candidate
    with hOdd | ⟨hRegular, hPlain⟩ | hUsable
  · rw [search_ignore hOdd]
    exact .inl rfl
  · rw [search_skip hRegular hPlain]
    cases plain with
    | none => exact .inr ⟨false, rfl⟩
    | some path => exact .inl rfl
  · rw [search_stop hUsable]
    exact .inr ⟨true, rfl⟩

/-- One more candidate is the answer, or makes no difference to it. -/
theorem answer_search_concat (front : List Bytes) (candidate : Bytes) :
    (search tree name plain (front ++ [candidate])).answer
        = (search tree name plain front).answer ∨
      ∃ executable, (search tree name plain (front ++ [candidate])).answer
        = some ⟨candidate, executable⟩ := by
  rw [answer_search_append]
  match (search tree name plain front).answer with
  | some ⟨path, true⟩ => exact .inl rfl
  | some ⟨path, false⟩ => exact answer_search_singleton (some path) candidate
  | none => exact answer_search_singleton none candidate

/-- Candidates that lead to the same things lead to answers of one grade. -/
theorem grade_search_congr {other : Option Bytes}
    (hPlain : plain.isSome = other.isSome) {candidates others : List Bytes}
    (h : List.Forall₂ (fun path other => tree.find path = tree.find other)
      candidates others) :
    grade (search tree name plain candidates).answer
      = grade (search tree name other others).answer := by
  induction h generalizing plain other with
  | nil =>
    cases plain with
    | none =>
      cases other with
      | none => rfl
      | some path => cases hPlain
    | some path =>
      cases other with
      | none => cases hPlain
      | some path => rfl
  | @cons candidate respelled rest others hFind _ ih =>
    have hRegularIff : tree.Regular respelled ↔ tree.Regular candidate := by
      rw [FileTree.Regular, FileTree.Regular, hFind]
    have hUsableIff : tree.Usable respelled ↔ tree.Usable candidate := by
      rw [FileTree.Usable, FileTree.Usable, hFind]
    rcases tree.odd_or_plain_or_usable candidate
      with hOdd | ⟨hRegular, hNot⟩ | hUsable
    · rw [search_ignore hOdd, search_ignore (mt hRegularIff.mp hOdd)]
      exact ih hPlain
    · rw [search_skip hRegular hNot,
        search_skip (hRegularIff.mpr hRegular) (mt hUsableIff.mp hNot)]
      apply ih
      cases plain <;> cases other <;> rfl
    · rw [search_stop hUsable, search_stop (hUsableIff.mpr hUsable)]
      rfl

/-! ## Directories with more slashes -/

/-- A directory can be written with a slash, two or a slash and a dot behind it. -/
inductive Respelled : Bytes → Bytes → Prop
  | same (directory : Bytes) : Respelled directory directory
  | slash {directory : Bytes} (h : directory ≠ []) :
    Respelled directory (directory ++ [Path.slash])
  | slashes {directory : Bytes} (h : directory ≠ []) :
    Respelled directory (directory ++ [Path.slash, Path.slash])
  | dot {directory : Bytes} (h : directory ≠ []) :
    Respelled directory (directory ++ Path.slash :: Path.dot)

/-- A directory with a slash at its end, which is added if there is none. -/
def Ended (directory ended : Bytes) : Prop :=
  ended = directory ∨
    directory ≠ [] ∧ directory.getLast? ≠ some Path.slash ∧
      ended = directory ++ [Path.slash]

theorem join_append_slash (directory name : Bytes) :
    join (directory ++ [Path.slash]) name
      = directory ++ Path.slash :: name := by
  simp [join]

theorem join_of_not_ended {directory : Bytes} (hSome : directory ≠ [])
    (h : directory.getLast? ≠ some Path.slash) (name : Bytes) :
    join directory name = directory ++ Path.slash :: name := by
  simp [join, hSome, h]

theorem Ended.join_eq {directory ended : Bytes} (h : Ended directory ended)
    (name : Bytes) : join ended name = join directory name := by
  rcases h with rfl | ⟨hSome, hEnd, rfl⟩
  · rfl
  · rw [join_append_slash, join_of_not_ended hSome hEnd]

/-- A slash between a directory and a name is harmless, be there one already. -/
theorem find_append_slash {directory name : Bytes} (hSome : directory ≠ [])
    (hName : Path.IsRelative name)
    (h : tree.isTooLong (directory ++ Path.slash :: name) = false) :
    tree.find (directory ++ Path.slash :: name)
      = tree.find (join directory name) := by
  by_cases hEnd : directory.getLast? = some Path.slash
  · obtain ⟨stem, rfl⟩ := List.getLast?_eq_some_iff.mp hEnd
    rw [join_append_slash]
    rw [List.append_assoc] at h ⊢
    exact FileTree.find_idle (.inl rfl) stem name hName h
  · rw [join_of_not_ended hSome hEnd]

/-- And so is a part that stays, in front of the slash. -/
theorem find_append_idle {directory name idle : Bytes}
    (hSome : directory ≠ []) (hIdle : Path.Idle idle)
    (hName : Path.IsRelative name)
    (h : tree.isTooLong
      (directory ++ Path.slash :: (idle ++ Path.slash :: name)) = false) :
    tree.find (directory ++ Path.slash :: (idle ++ Path.slash :: name))
      = tree.find (join directory name) := by
  rw [FileTree.find_idle hIdle directory name hName h]
  apply find_append_slash hSome hName
  apply FileTree.isTooLong_of_le _ h
  simp only [List.length_append, List.length_cons]
  omega

theorem Respelled.find_eq {directory other name : Bytes}
    (hSpelled : Respelled directory other) (hName : Path.IsRelative name)
    (h : tree.isTooLong (join other name) = false) :
    tree.find (join other name) = tree.find (join directory name) := by
  cases hSpelled with
  | same => rfl
  | slash hSome =>
    rw [join_append_slash] at h ⊢
    exact find_append_slash hSome hName h
  | slashes hSome =>
    have hJoin : join (directory ++ [Path.slash, Path.slash]) name
        = directory ++ Path.slash :: ([] ++ Path.slash :: name) := by
      simp [join]
    rw [hJoin] at h ⊢
    exact find_append_idle hSome (.inl rfl) hName h
  | dot hSome =>
    have hJoin : join (directory ++ Path.slash :: Path.dot) name
        = directory ++ Path.slash :: (Path.dot ++ Path.slash :: name) := by
      simp [join, Path.dot, Path.slash]
    rw [hJoin] at h ⊢
    exact find_append_idle hSome (.inr rfl) hName h

end SearchPath

namespace Resolver

variable {tree : FileTree} {entries others : List Bytes} {name : String}

/-! ## The directory an answer comes from -/

/--
An answer comes from the directory with which it is there, while it is not
with those before it alone.
-/
def ComesFrom (tree : FileTree) (entries : List Bytes) (name : String)
    (i : Nat) : Prop :=
  (searching tree (entries.take (i + 1)) name).answer
      = (searching tree entries name).answer ∧
    (searching tree (entries.take i) name).answer
      ≠ (searching tree entries name).answer

theorem answer_append_or (tree : FileTree) (hName : Bare name)
    (front back : List Bytes) :
    (searching tree (front ++ back) name).answer
        = (searching tree front name).answer ∨
      grade (searching tree front name).answer
        < grade (searching tree (front ++ back) name).answer := by
  rw [searching_eq_search hName, searching_eq_search hName, List.map_append]
  exact SearchPath.answer_search_append_or _ _

theorem answer_concat (tree : FileTree) (hName : Bare name)
    (front : List Bytes) (entry : Bytes) :
    (searching tree (front ++ [entry]) name).answer
        = (searching tree front name).answer ∨
      ∃ executable, (searching tree (front ++ [entry]) name).answer
        = some ⟨SearchPath.join entry (Utf8.encode name), executable⟩ := by
  rw [searching_eq_search hName, searching_eq_search hName, List.map_append]
  exact SearchPath.answer_search_concat _ _

/-- The answer for some of the directories is that for all, or is worse. -/
theorem answer_take_or (tree : FileTree) (hName : Bare name)
    (entries : List Bytes) (n : Nat) :
    (searching tree entries name).answer
        = (searching tree (entries.take n) name).answer ∨
      grade (searching tree (entries.take n) name).answer
        < grade (searching tree entries name).answer := by
  have hSplit := answer_append_or tree hName (entries.take n) (entries.drop n)
  rw [List.take_append_drop] at hSplit
  exact hSplit

theorem grade_take_le (tree : FileTree) (hName : Bare name)
    (entries : List Bytes) {n m : Nat} (h : n ≤ m) :
    grade (searching tree (entries.take n) name).answer
      ≤ grade (searching tree (entries.take m) name).answer := by
  have hSplit := answer_take_or tree hName (entries.take m) n
  rw [List.take_take, Nat.min_eq_left h] at hSplit
  cases hSplit with
  | inl hSame => exact Nat.le_of_eq (congrArg grade hSame.symm)
  | inr hWorse => exact Nat.le_of_lt hWorse

/-- It is enough to look at the grades of the answers. -/
theorem comesFrom_iff (hName : Bare name) {i : Nat} :
    ComesFrom tree entries name i ↔
      grade (searching tree (entries.take (i + 1)) name).answer
          = grade (searching tree entries name).answer ∧
        grade (searching tree (entries.take i) name).answer
          < grade (searching tree entries name).answer := by
  constructor
  · intro h
    refine ⟨congrArg grade h.1, ?_⟩
    exact (answer_take_or tree hName entries i).resolve_left (Ne.symm h.2)
  · intro h
    constructor
    · have hWith := answer_take_or tree hName entries (i + 1)
      exact (hWith.resolve_right (by omega)).symm
    · intro hSame
      have hGrade := congrArg grade hSame
      omega

theorem ComesFrom.le (hName : Bare name) {i j : Nat}
    (hi : ComesFrom tree entries name i) (hj : ComesFrom tree entries name j) :
    i ≤ j := by
  obtain ⟨-, hBefore⟩ := (comesFrom_iff hName).mp hi
  obtain ⟨hWith, -⟩ := (comesFrom_iff hName).mp hj
  refine Nat.le_of_not_lt fun hLess => ?_
  have hLe : grade (searching tree (entries.take (j + 1)) name).answer
      ≤ grade (searching tree (entries.take i) name).answer :=
    grade_take_le tree hName entries hLess
  omega

/-- An answer comes from one directory. -/
theorem ComesFrom.unique (hName : Bare name) {i j : Nat}
    (hi : ComesFrom tree entries name i) :
    ComesFrom tree entries name j ↔ j = i := by
  constructor
  · intro hj
    exact Nat.le_antisymm (hj.le hName hi) (hi.le hName hj)
  · rintro rfl
    exact hi

theorem ComesFrom.lt_length {i : Nat} (h : ComesFrom tree entries name i) :
    i < entries.length := by
  refine Nat.lt_of_not_le fun hLe => h.2 ?_
  rw [List.take_of_length_le hLe]

/-- What is found lies in the directory that the answer comes from. -/
theorem ComesFrom.path_eq (hName : Bare name) {i : Nat}
    (hi : ComesFrom tree entries name i) {found : ResolvedTool}
    (h : (searching tree entries name).answer = some found) {entry : Bytes}
    (hEntry : entries[i]? = some entry) :
    found.path = SearchPath.join entry (Utf8.encode name) := by
  obtain ⟨hWith, hBefore⟩ := hi
  have hLast := answer_concat tree hName (entries.take i) entry
  have hTake : entries.take i ++ [entry] = entries.take (i + 1) := by
    rw [List.take_add_one, hEntry]
    rfl
  rw [hTake, hWith] at hLast
  obtain ⟨executable, hFound⟩ := hLast.resolve_left (Ne.symm hBefore)
  rw [h] at hFound
  cases hFound
  rfl

/-- Whatever is found comes from somewhere. -/
theorem exists_comesFrom (hName : Bare name) {found : ResolvedTool}
    (h : (searching tree entries name).answer = some found) :
    ∃ i, ComesFrom tree entries name i := by
  have hAll : ∃ n, (searching tree (entries.take n) name).answer
      = (searching tree entries name).answer :=
    ⟨entries.length, by rw [List.take_length]⟩
  -- The number of directories that are enough; without any there is no answer.
  cases hLeast : Nat.find hAll with
  | zero =>
    have hNone := Nat.find_spec hAll
    rw [hLeast, h, searching_eq_search hName] at hNone
    cases hNone
  | succ i =>
    have hWith := Nat.find_spec hAll
    rw [hLeast] at hWith
    exact ⟨i, hWith, Nat.find_min hAll (by omega)⟩

/-! ## Spellings of the directories -/

/-- Read as a path, a name that is looked for begins with a part of its own. -/
theorem Bare.isRelative (h : Bare name) :
    Path.IsRelative (Utf8.encode name) := by
  constructor
  · intro hEmpty
    apply h.1
    rw [← Utf8.encode_empty] at hEmpty
    exact Utf8.encode_injective hEmpty
  · rw [Path.isAbsolute, beq_eq_false_iff_ne]
    intro hSlash
    exact h.2 (Utf8.mem_toList_of_mem_encode (by decide)
      (List.mem_of_head? hSlash))

section Respelled

variable (hSpelled : List.Forall₂ SearchPath.Respelled entries others)
  (hShort : ∀ entry ∈ others,
    tree.isTooLong (SearchPath.join entry (Utf8.encode name)) = false)
  (hName : Bare name)

include hSpelled hShort hName

/-- Candidates lead to the same things if their directories are respelled. -/
theorem forall₂_find :
    List.Forall₂ (fun path other => tree.find path = tree.find other)
      (entries.map (SearchPath.join · (Utf8.encode name)))
      (others.map (SearchPath.join · (Utf8.encode name))) := by
  induction hSpelled with
  | nil => exact .nil
  | cons hFirst _ ih =>
    obtain ⟨hShortFirst, hShortRest⟩ := List.forall_mem_cons.mp hShort
    exact .cons (hFirst.find_eq hName.isRelative hShortFirst).symm
      (ih hShortRest)

theorem grade_respelled :
    grade (searching tree entries name).answer
      = grade (searching tree others name).answer := by
  rw [searching_eq_search hName, searching_eq_search hName]
  exact SearchPath.grade_search_congr rfl (forall₂_find hSpelled hShort hName)

theorem grade_take_respelled (n : Nat) :
    grade (searching tree (entries.take n) name).answer
      = grade (searching tree (others.take n) name).answer := by
  apply grade_respelled (List.forall₂_take n hSpelled) _ hName
  intro entry hEntry
  exact hShort entry (List.mem_of_mem_take hEntry)

theorem comesFrom_respelled {i : Nat} :
    ComesFrom tree entries name i ↔ ComesFrom tree others name i := by
  rw [comesFrom_iff hName, comesFrom_iff hName,
    grade_take_respelled hSpelled hShort hName,
    grade_take_respelled hSpelled hShort hName,
    grade_respelled hSpelled hShort hName]

end Respelled

/-- A slash that is missing behind a directory is put there by the search. -/
theorem searching_ended (hName : Bare name)
    (h : List.Forall₂ SearchPath.Ended entries others) :
    searching tree others name = searching tree entries name := by
  have hPaths : others.map (SearchPath.join · (Utf8.encode name))
      = entries.map (SearchPath.join · (Utf8.encode name)) := by
    induction h with
    | nil => rfl
    | cons hEnded _ ih => rw [List.map_cons, List.map_cons, hEnded.join_eq, ih]
  rw [searching_eq_search hName, searching_eq_search hName, hPaths]

/--
It does not matter how the directories of a search path are spelled. To any
of them but the empty one a slash can be added, or two, or a slash and a dot:
a file is found if one was found before, it may be executed if that one
might, and both come from the directory with the same number. This holds
for paths of any length if there is no limit to it, and else as long as the
new candidates stay below the limit. A slash that is added where there was
none cannot even be told: what is found and what is said on the way remain
the same to the byte.
-/
theorem searching_respelled (tree : FileTree) (entries others : List Bytes)
    (name : String) (hName : Bare name) :
    let answer := (searching tree entries name).answer
    let respelled := (searching tree others name).answer
    (List.Forall₂ SearchPath.Respelled entries others →
      (∀ limit, tree.pathLimit = some limit →
        ∀ path ∈ candidates others name, path.length < limit) →
      respelled.map (·.executable) = answer.map (·.executable) ∧
      ∀ found, answer = some found →
        ∃ i entry other, entries[i]? = some entry ∧ others[i]? = some other ∧
          (∀ j, ComesFrom tree entries name j ↔ j = i) ∧
          (∀ j, ComesFrom tree others name j ↔ j = i) ∧
          found.path = SearchPath.join entry (Utf8.encode name) ∧
          respelled = some
            ⟨SearchPath.join other (Utf8.encode name), found.executable⟩) ∧
    (List.Forall₂ SearchPath.Ended entries others →
      searching tree others name = searching tree entries name) := by
  intro answer respelled
  refine ⟨?_, searching_ended hName⟩
  intro hSpelled hLimit
  have hShort : ∀ entry ∈ others,
      tree.isTooLong (SearchPath.join entry (Utf8.encode name)) = false := by
    intro entry hEntry
    rw [FileTree.isTooLong_eq_false_iff]
    intro limit hSome
    apply hLimit limit hSome
    rw [candidates_of_bare hName]
    exact List.mem_map_of_mem hEntry
  have hExecutable : respelled.map (·.executable)
      = answer.map (·.executable) :=
    ResolvedTool.executable_of_grade
      (grade_respelled hSpelled hShort hName).symm
  refine ⟨hExecutable, ?_⟩
  intro found hFound
  obtain ⟨i, hi⟩ := exists_comesFrom hName hFound
  have hOther : ComesFrom tree others name i :=
    (comesFrom_respelled hSpelled hShort hName).mp hi
  obtain ⟨entry, hEntry⟩ : ∃ entry, entries[i]? = some entry :=
    ⟨_, List.getElem?_eq_getElem hi.lt_length⟩
  obtain ⟨other, hOtherEntry⟩ : ∃ other, others[i]? = some other :=
    ⟨_, List.getElem?_eq_getElem hOther.lt_length⟩
  obtain ⟨tool, hTool, hSame⟩ : ∃ tool, respelled = some tool ∧
      tool.executable = found.executable := by
    rw [hFound] at hExecutable
    exact Option.map_eq_some_iff.mp hExecutable
  have hPath := hOther.path_eq hName hTool hOtherEntry
  refine ⟨i, entry, other, hEntry, hOtherEntry, fun j => hi.unique hName,
    fun j => hOther.unique hName, hi.path_eq hName hFound hEntry, ?_⟩
  rw [hTool, ← hPath, ← hSame]

/-- Past a loop and a file, through a link to the directory with the tool. -/
theorem searching_respelled_through_a_link :
    let tree := FileTree.ofEntries [
      ⟨Utf8.encode "loop", .link (Utf8.encode "loop")⟩,
      ⟨Utf8.encode "notes", .file 0o644 .silent⟩,
      ⟨Utf8.encode "opt/ruby", .file 0o755 .silent⟩,
      ⟨Utf8.encode "bin", .link (Utf8.encode "opt/")⟩]
    let entries := [Utf8.encode "loop", Utf8.encode "notes", Utf8.encode "bin"]
    let others := [Utf8.encode "loop//", Utf8.encode "notes/",
      Utf8.encode "bin/."]
    (searching tree others "ruby").answer.map (·.executable) = some true ∧
      (∃ i, (∀ j, ComesFrom tree entries "ruby" j ↔ j = i) ∧
        ∀ j, ComesFrom tree others "ruby" j ↔ j = i) ∧
      searching tree [Utf8.encode "loop", Utf8.encode "notes/",
          Utf8.encode "bin/"] "ruby"
        = searching tree entries "ruby" := by
  intro tree entries others
  have hBare : Bare "ruby" := ⟨by decide, by decide⟩
  have hFound : (searching tree entries "ruby").answer
      = some ⟨Utf8.encode "bin/ruby", true⟩ := by
    decide +kernel
  have hSpelled : List.Forall₂ SearchPath.Respelled entries others :=
    .cons (.slashes (by decide)) (.cons (.slash (by decide))
      (.cons (.dot (by decide)) .nil))
  have hEnded : List.Forall₂ SearchPath.Ended entries
      [Utf8.encode "loop", Utf8.encode "notes/", Utf8.encode "bin/"] :=
    .cons (.inl rfl)
      (.cons (.inr ⟨by decide +kernel, by decide +kernel, by decide +kernel⟩)
        (.cons (.inr ⟨by decide +kernel, by decide +kernel, by decide +kernel⟩)
          .nil))
  have hShort : ∀ limit, tree.pathLimit = some limit →
      ∀ path ∈ candidates others "ruby", path.length < limit := by
    intro limit hLimit
    cases hLimit
    decide +kernel
  obtain ⟨hExecutable, hOrigin⟩ :=
    (searching_respelled tree entries others "ruby" hBare).1 hSpelled hShort
  obtain ⟨i, -, -, -, -, hi, hOther, -⟩ := hOrigin _ hFound
  refine ⟨?_, ⟨i, hi, hOther⟩, ?_⟩
  · rw [hExecutable, hFound]
    rfl
  · exact (searching_respelled tree entries _ "ruby" hBare).2 hEnded

end Resolver

end Preflight
