import Preflight.FileTree.Lookup
import Preflight.Trace

/-!
# Finding a tool

A resolver answers a name with a file, or with none, and says what it did.
`Resolver.searching` looks in the directories of a search path. It is out
for an executable file and goes on past files that are not; only if there
is none at all does the first of those count, so that a tool which is there
and cannot be run is told apart from one that is missing.

A name with a slash in it is a path already and is not searched for.

## Main results

* `SearchPath.search_nil`, `SearchPath.search_cons` — a search, candidate by
  candidate.
-/

namespace Preflight

/-- A file that answers a name. -/
structure ResolvedTool where
  path : Bytes
  executable : Bool
  deriving DecidableEq

/-- A resolver's answer, and what it said on the way. -/
structure Resolution where
  answer : Option ResolvedTool
  events : List Event
  deriving DecidableEq

/-- A way to find tools by name. -/
abbrev Resolver := String → Resolution

namespace SearchPath

/-- The byte that divides the entries of a search path. -/
def colon : UInt8 := 0x3A

/--
The directories of a search path. Each colon divides two, either of which
may be empty; a path that is not set has none.
-/
def entries : Option Bytes → List Bytes
  | none => []
  | some path => path.splitOn colon

/--
The path of a file in a directory: a slash between the two, unless the
directory ends in one or is the empty path.
-/
def join (directory name : Bytes) : Bytes :=
  if directory.isEmpty || directory.getLast? == some Path.slash then
    directory ++ name
  else directory ++ Path.slash :: name

/--
Tries candidates for `name` in turn. `plain` is the first regular file met
so far that may not be executed.
-/
def search (tree : FileTree) (name : String) (plain : Option Bytes) :
    List Bytes → Resolution
  | [] => ⟨plain.map (⟨·, false⟩), []⟩
  | candidate :: rest =>
    if tree.isFile candidate = false then search tree name plain rest
    else if tree.isExecutable candidate then
      ⟨some ⟨candidate, true⟩, [.resolved name candidate]⟩
    else
      let later := search tree name (plain <|> some candidate) rest
      ⟨later.answer, .skipped candidate :: later.events⟩

@[simp] theorem search_nil (tree : FileTree) (name : String)
    (plain : Option Bytes) :
    search tree name plain [] = ⟨plain.map (⟨·, false⟩), []⟩ := rfl

theorem search_cons (tree : FileTree) (name : String) (plain : Option Bytes)
    (candidate : Bytes) (rest : List Bytes) :
    search tree name plain (candidate :: rest) =
      if tree.isFile candidate = false then search tree name plain rest
      else if tree.isExecutable candidate then
        ⟨some ⟨candidate, true⟩, [.resolved name candidate]⟩
      else
        ⟨(search tree name (plain <|> some candidate) rest).answer,
          .skipped candidate ::
            (search tree name (plain <|> some candidate) rest).events⟩ := rfl

end SearchPath

namespace Resolver

/-- The resolver that takes a name as a path. -/
def direct (tree : FileTree) (name : String) : Option ResolvedTool :=
  let path := Utf8.encode name
  if tree.isFile path then some ⟨path, tree.isExecutable path⟩ else none

/-- The resolver over the directories `entries` of a file tree. -/
def searching (tree : FileTree) (entries : List Bytes) : Resolver := fun name =>
  if name = "" then ⟨none, []⟩
  else if name.toList.contains '/' then ⟨direct tree name, []⟩
  else
    SearchPath.search tree name none
      (entries.map (SearchPath.join · (Utf8.encode name)))

end Resolver

end Preflight
