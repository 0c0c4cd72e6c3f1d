import Preflight.Proofs.CommandLine.Options
import Preflight.Proofs.Program
import Preflight.Proofs.Search

/-!
# Giving a reported path back

A path that a name resolved to can be given in place of the name. If it has
a slash it is taken as it is, and leads to the same file, for the same bytes
are looked up as in the search; no directory is searched any more. A search
joins its paths with a slash, and leaves it out for the empty directory
alone. A path without one is therefore the name itself, and the search for it
is the one that was made.

## Main results

* `Resolver.answer_of_reported` — what was found at a path is found there.
* `Program.reported_path_resolves` — so are the tools of runs.
-/

namespace Preflight

namespace SearchPath

@[simp] theorem join_nil (name : Bytes) : join [] name = name := rfl

/-- Only the empty directory is joined without a slash. -/
theorem slash_mem_join {directory : Bytes} (h : directory ≠ [])
    (name : Bytes) : Path.slash ∈ join directory name := by
  unfold join
  by_cases hEnd : directory.getLast? = some Path.slash
  · have hMem : Path.slash ∈ directory := List.mem_of_getLast? hEnd
    simp [hEnd, hMem]
  · simp [h, hEnd]

end SearchPath

namespace Resolver

variable {tree : FileTree} {entries : List Bytes} {name path : String}
  {found : ResolvedTool}

/-- Where something was found, it is found again without a search. -/
theorem direct_of_answer
    (h : (searching tree entries name).answer = some found)
    (hPath : found.path = Utf8.encode path) : direct tree path = some found := by
  obtain ⟨mode, contents, hFind, hMode⟩ := find_of_answer h
  rw [direct_eq_some_iff]
  refine ⟨mode, contents, ?_, ?_⟩
  · rw [← hPath]
    exact hFind
  · rw [← hPath, ← hMode]

/-- A path without a slash that was found is the name that was looked for. -/
theorem eq_name_of_answer
    (h : (searching tree entries name).answer = some found)
    (hPath : found.path = Utf8.encode path) (hSlash : '/' ∉ path.toList) :
    path = name := by
  rcases empty_or_path_or_bare name with rfl | hName | hBare
  · cases h
  · rw [searching_of_path hName] at h
    have hSame := path_of_direct h
    rw [hPath] at hSame
    exact Utf8.encode_injective hSame
  · have hMem := mem_candidates_of_answer hBare h
    rw [candidates_of_bare hBare] at hMem
    obtain ⟨directory, -, hJoin⟩ := List.mem_map.mp hMem
    have hEmpty : directory = [] := by
      refine Classical.byContradiction fun hDirectory => hSlash ?_
      have hByte := SearchPath.slash_mem_join hDirectory (Utf8.encode name)
      rw [hJoin, hPath] at hByte
      exact Utf8.mem_toList_of_mem_encode (by decide) hByte
    rw [hEmpty, SearchPath.join_nil, hPath] at hJoin
    exact (Utf8.encode_injective hJoin).symm

/-- What was found at a path is found there, among the same directories. -/
theorem answer_of_reported
    (h : (searching tree entries name).answer = some found)
    (hPath : found.path = Utf8.encode path) :
    (searching tree entries path).answer = some found := by
  by_cases hSlash : '/' ∈ path.toList
  · rw [searching_of_path hSlash]
    exact direct_of_answer h hPath
  · rw [eq_name_of_answer h hPath hSlash]
    exact h

/-- With a slash in the path the directories do not matter. -/
theorem answer_of_reported_path
    (h : (searching tree entries name).answer = some found)
    (hPath : found.path = Utf8.encode path) (hSlash : '/' ∈ path.toList)
    (others : List Bytes) :
    (searching tree others path).answer = some found := by
  rw [searching_of_path hSlash]
  exact direct_of_answer h hPath

end Resolver

/-- A check that passes reports the path of a tool that may be executed. -/
theorem Check.answer_of_value_run {resolver : Resolver} {invoker : Invoker}
    {config : Config} {report : Report}
    (h : (run resolver invoker config).value = .ok report) :
    (resolver config.requiredTool.name).answer
      = some ⟨report.toolPath, true⟩ := by
  obtain ⟨path, hOpen, rfl⟩ := (value_run_eq_ok_iff _ _ _).mp h
  exact hOpen

/-- A tool that is named on the command line is the one that is required. -/
theorem Options.tool_of_mem {fallbacks : Fallbacks} {arguments : List Bytes}
    {options : Options} (h : read fallbacks arguments = .ok options)
    {tool : String}
    (hMem : Utf8.encode ("--pg-config=" ++ tool) ∈ arguments) :
    options.tool = tool := by
  obtain ⟨items, hSpells⟩ := exists_spells_of_read h
  have hItem : .glued .tool tool ∈ items := hSpells.glued_mem hMem
  exact setting_of_mem hSpells h hItem (.inl rfl)

namespace Program

/--
What a name resolves to can be given back. The path that was found, if it is
text, resolves to itself among the same directories, with the same claim to
be executable; and if it has a slash in it, among any others too. So a check
that passed passes again, for the same tool, if the path that it reported is
named on the command line: whatever else is said there, wherever tools are
searched for then and whoever starts the interpreters.
-/
theorem reported_path_resolves (tree : FileTree) (entries : List Bytes) :
    (∀ name found path,
      (Resolver.searching tree entries name).answer = some found →
      found.path = Utf8.encode path →
      (Resolver.searching tree entries path).answer = some found ∧
      ('/' ∈ path.toList → ∀ others,
        (Resolver.searching tree others path).answer = some found)) ∧
    ∀ (options : Options) invoker report path,
      (Check.run (.searching tree entries) invoker options.config).value
        = .ok report →
      report.toolPath = Utf8.encode path → '/' ∈ path.toList →
      ∀ (environment : Environment) arguments again,
        Options.read environment.fallbacks arguments = .ok again →
        Utf8.encode ("--pg-config=" ++ path) ∈ arguments →
        (∀ otherInvoker, ∃ otherReport,
          (Check.run
            (.searching tree (SearchPath.entries environment.searchPath))
            otherInvoker again.config).value = .ok otherReport ∧
          otherReport.toolPath = report.toolPath) ∧
        (run tree environment arguments .unlimited).status = 0 := by
  constructor
  · intro name found path hFound hPath
    exact ⟨Resolver.answer_of_reported hFound hPath,
      Resolver.answer_of_reported_path hFound hPath⟩
  · intro options invoker report path hRun hPath hSlash environment arguments
      again hRead hNamed
    have hFound := Check.answer_of_value_run hRun
    have hAgain : (Resolver.searching tree
        (SearchPath.entries environment.searchPath) again.tool).answer
          = some ⟨report.toolPath, true⟩ := by
      rw [Options.tool_of_mem hRead hNamed]
      exact Resolver.answer_of_reported_path hFound hPath hSlash _
    constructor
    · intro otherInvoker
      exact ⟨_, Check.value_run_of_open _ otherInvoker again.config hAgain, rfl⟩
    · apply status_run_of_reportable hRead
      refine ⟨report.toolPath, answer_iff_found.mp hAgain, ?_⟩
      intro _
      exact ⟨path, hPath⟩

/-- With a tool below a directory given with two slashes and no search path. -/
theorem reported_path_resolves_in_bin :
    let tree := Verdict.treeWith (Utf8.encode "bin//")
    let environment : Environment := ⟨fun _ => none, none, none⟩
    let path := "bin//pg_config"
    (Resolver.searching tree [] path).answer
        = some ⟨Utf8.encode path, true⟩ ∧
      (run tree environment [Utf8.encode "--json",
        Utf8.encode ("--pg-config=" ++ path)] .unlimited).status = 0 := by
  intro tree environment path
  have hFound : (Resolver.searching tree [Utf8.encode "bin//"]
      "pg_config").answer = some ⟨Utf8.encode path, true⟩ := by
    decide +kernel
  have hSlash : '/' ∈ path.toList := by
    decide +kernel
  have hSpells : Spells [.flag .json, .glued .tool path]
      [Utf8.encode "--json", Utf8.encode ("--pg-config=" ++ path)] :=
    ⟨.inl rfl, by simp [Item.WellFormed], by decide⟩
  obtain ⟨again, hRead⟩ :=
    (Options.exists_read_iff environment.fallbacks hSpells).mpr nofun
  obtain ⟨hNames, hRuns⟩ :=
    reported_path_resolves tree [Utf8.encode "bin//"]
  obtain ⟨-, hOthers⟩ := hNames _ _ path hFound rfl
  have hRun := Check.value_run_of_open _
    (fun call => .error (.unknownProgram call.program)) Config.standard hFound
  obtain ⟨-, hStatus⟩ := hRuns .standard _ _ path hRun rfl hSlash environment
    _ _ hRead (List.mem_cons_of_mem _ List.mem_cons_self)
  exact ⟨hOthers hSlash [], hStatus⟩

end Program

end Preflight
