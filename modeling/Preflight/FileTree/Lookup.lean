import Preflight.FileTree

/-!
# Path lookup

A path is cut at its slashes into parts, which are followed one by one from
the root of the tree, or from outside if the path begins with a slash. A
part is followed from a directory only. The empty part stays where it is, so
that repeated slashes are harmless while a slash at the end still asks for a
directory. All other parts are followed only from a directory that the user
may search: `.` stays there as well, `..` goes to the directory that holds
the present one, by way of no link, and any other part is the name of a
member. A link puts the parts of its target before those still to go.

One lookup follows forty links and no more, which is what ends a walk
through a loop of links, and what its recursion is founded on. Lengths are
limited too: a name has at most 255 bytes, and a path as it is given stays
below the limit of the tree, if it has one, whatever the links on its way add.

## Main results

* `FileTree.walkWith_stay` — an empty part or `.` changes nothing in front
  of a further part that is not empty.
-/

namespace Preflight

/-- Why a path leads nowhere. -/
inductive LookupError where
  /-- A part of the path is not there, or the path is empty. -/
  | noSuchFile
  /-- Something other than a directory was to be entered. -/
  | notADirectory
  /-- A directory on the way may not be searched. -/
  | accessDenied
  /-- More links stood in the way than are followed. -/
  | tooManyLinks
  /-- The path, or a part of it, is longer than it can be. -/
  | nameTooLong
  /-- The path holds a zero byte, which no path can. -/
  | zeroByte
  deriving DecidableEq

namespace Path

/-- The byte that divides the parts of a path. -/
def slash : UInt8 := 0x2F

/-- The part that stays in a directory. -/
def dot : Bytes := [0x2E]

/-- The part that leaves a directory. -/
def dotDot : Bytes := [0x2E, 0x2E]

/-- The parts of a path, with an empty one wherever nothing is between two slashes. -/
def parts (path : Bytes) : List Bytes := path.splitOn slash

/-- Whether a path starts outside of the tree. -/
def isAbsolute (path : Bytes) : Bool := path.head? == some slash

/-- The longest name of a file. -/
def nameLimit : Nat := 255

/-- Whether a path reaches the usual limit. -/
def isTooLong (path : Bytes) : Bool := lengthLimit ≤ path.length

/-- How many links one lookup follows. -/
def linkLimit : Nat := 40

end Path

namespace FileTree

/-- Where a path begins that is read in the directory `here`. -/
def start (here : Place) (path : Bytes) : Place :=
  if Path.isAbsolute path then .outside else here

/--
Follows parts from `here`. A link hands the place its target begins at and
all parts then to go to `follow`.
-/
def walkWith (tree : FileTree)
    (follow : Place → List Bytes → Except LookupError Place) (here : Place) :
    List Bytes → Except LookupError Place
  | [] => .ok here
  | part :: rest =>
    if tree.isDirectory here = false then .error .notADirectory
    else if part = [] then tree.walkWith follow here rest
    else if tree.maySearch here = false then .error .accessDenied
    else if part = Path.dot then tree.walkWith follow here rest
    else if part = Path.dotDot then tree.walkWith follow here.parent rest
    else if Path.nameLimit < part.length then .error .nameTooLong
    else match tree.node? (.within here part) with
      | none => .error .noSuchFile
      | some (.link target) =>
        follow (start here target) (Path.parts target ++ rest)
      | some _ => tree.walkWith follow (.within here part) rest

/--
An empty part or `.` changes nothing in front of a further part, which asks
for as much as they do. Another empty part would not, for it needs no
permission.
-/
theorem walkWith_stay (tree : FileTree)
    (follow : Place → List Bytes → Except LookupError Place) (here : Place)
    {stay : Bytes} (h : stay = [] ∨ stay = Path.dot) {part : Bytes}
    (hPart : part ≠ []) (rest : List Bytes) :
    tree.walkWith follow here (stay :: part :: rest)
      = tree.walkWith follow here (part :: rest) := by
  rw [walkWith]
  by_cases hDirectory : tree.isDirectory here = false
  · simp [hDirectory, walkWith]
  rw [if_neg hDirectory]
  by_cases hEmpty : stay = []
  · rw [if_pos hEmpty]
  rw [if_neg hEmpty, if_pos (h.resolve_left hEmpty)]
  by_cases hSearch : tree.maySearch here = false
  · simp [hSearch, walkWith, hDirectory, hPart]
  · rw [if_neg hSearch]

/-- Follows parts from a place, and `links` links at most. -/
def walk (tree : FileTree) : Nat → Place → List Bytes → Except LookupError Place
  | 0 => tree.walkWith fun _ _ => .error .tooManyLinks
  | links + 1 => tree.walkWith (tree.walk links)

/-- Whether a path is too long to be looked up. -/
def isTooLong (tree : FileTree) (path : Bytes) : Bool :=
  tree.pathLimit.any (· ≤ path.length)

/-- The place that a path leads to, all links followed. -/
def locate (tree : FileTree) (path : Bytes) : Except LookupError Place :=
  if path.contains 0 then .error .zeroByte
  else if path.isEmpty then .error .noSuchFile
  else if tree.isTooLong path then .error .nameTooLong
  else tree.walk Path.linkLimit (start .root path) (Path.parts path)

/-- What a path leads to, all links followed. -/
def find (tree : FileTree) (path : Bytes) : Except LookupError Node :=
  match tree.locate path with
  | .error cause => .error cause
  | .ok place =>
    match tree.node? place with
    | none => .error .noSuchFile
    | some node => .ok node

/-- Whether a path leads to a regular file. -/
def isFile (tree : FileTree) (path : Bytes) : Bool :=
  match tree.find path with
  | .ok node => node.isFile
  | .error _ => false

/-- Whether a path leads to something with a bit that allows execution. -/
def isExecutable (tree : FileTree) (path : Bytes) : Bool :=
  match tree.find path with
  | .ok node => node.executable
  | .error _ => false

end FileTree

end Preflight
