import Preflight.Script

/-!
# File trees

A file tree is a finite set of places with something at each of them. Its
root is the directory that relative paths start from. All that lies beside
the tree is one place, `outside`: a directory in which nothing of interest
can be found and from which no way leads back.

A tree may have a limit to the length of the paths that are looked up in it;
one that is built from nothing has the usual one. And it has a user. Usually
this is the owner of all that is in the tree, so that of the bits of a mode
the owner's are the ones that permit something: to go on from a directory, or
to start a program. To a privileged user all directories are open, and a
program may be started as soon as anyone at all may execute it. The root and
what is outside are open to everyone.

A directory has no list of its members. A member is a place `within` the
directory, so two directories never share one and no place lies within
itself; links are what makes a tree tangled.

## Main results

* `FileTree.node?_insert_self` — what is put at a place is there.
* `FileTree.maySearch_asPrivileged`, `FileTree.maySearch_root` — a
  privileged user is kept out of no directory, and nobody of the root.
-/

namespace Preflight

/-- A spot in the file system, reached without links. -/
inductive Place where
  /-- Anywhere beside the tree. -/
  | outside
  /-- The directory that relative paths start from. -/
  | root
  /-- The member of a directory with a given name. -/
  | within (directory : Place) (name : Bytes)
  deriving DecidableEq

/-- The directory that a place is in. -/
def Place.parent : Place → Place
  | .outside | .root => .outside
  | .within directory _ => directory

/-- The permission bits of a file. -/
abbrev Mode := Nat

/-- Whether anyone at all may execute the file, its owner, a group or others. -/
def Mode.executable (mode : Mode) : Bool := mode &&& 0o111 != 0

/-- Whether its owner may execute the file. -/
def Mode.ownerExecutable (mode : Mode) : Bool := mode &&& 0o100 != 0

/-- What can be at a place. -/
inductive Node where
  /-- A regular file with its contents. -/
  | file (mode : Mode) (contents : Script)
  | directory (mode : Mode)
  /-- A file that is neither regular nor a directory, such as a named pipe. -/
  | special (mode : Mode)
  /-- A symbolic link, which stands for the path it holds. -/
  | link (target : Bytes)

namespace Node

def isDirectory : Node → Bool
  | .directory _ => true
  | _ => false

def isFile : Node → Bool
  | .file _ _ => true
  | _ => false

/-- Whether a bit of the node's mode allows execution. -/
def executable : Node → Bool
  | .file mode _ | .directory mode | .special mode => mode.executable
  | .link _ => true

/-- Whether the owner's bit of the node's mode allows execution. -/
def ownerExecutable : Node → Bool
  | .file mode _ | .directory mode | .special mode => mode.ownerExecutable
  | .link _ => true

end Node

/-- The length that no path reaches where nothing else is said. -/
def Path.lengthLimit : Nat := 4096

/-- Places and what is at them. Of two entries for one place the first counts. -/
structure FileTree where
  nodes : List (Place × Node)
  /-- The length that no path reaches. Without one a path can be of any length. -/
  pathLimit : Option Nat := some Path.lengthLimit
  /-- Whether the user is privileged, and not only the owner of all nodes. -/
  privileged : Bool := false

namespace FileTree

/-- A tree with nothing in its root. -/
def empty : FileTree := { nodes := [] }

/-- What is at a place. The root and everything outside are directories. -/
def node? (tree : FileTree) (place : Place) : Option Node :=
  match place with
  | .outside | .root => some (.directory 0o755)
  | .within _ _ => tree.nodes.lookup place

/-- The tree as a privileged user sees it. -/
def asPrivileged (tree : FileTree) : FileTree :=
  { tree with privileged := true }

/-- Puts a node at a place, instead of what was there. -/
def insert (tree : FileTree) (place : Place) (node : Node) : FileTree :=
  { tree with nodes := (place, node) :: tree.nodes }

@[simp] theorem node?_insert_self (tree : FileTree) (directory : Place)
    (name : Bytes) (node : Node) :
    (tree.insert (.within directory name) node).node? (.within directory name)
      = some node := by
  simp [node?, insert]

/-- Whether a place is a directory. -/
def isDirectory (tree : FileTree) (place : Place) : Bool :=
  (tree.node? place).any Node.isDirectory

/-- Whether the user may go on from a directory, to a member or elsewhere. -/
def maySearch (tree : FileTree) (place : Place) : Bool :=
  tree.privileged || (tree.node? place).any Node.ownerExecutable

/-- Whether the user may start a program with the given mode. -/
def mayStart (tree : FileTree) (mode : Mode) : Bool :=
  if tree.privileged then mode.executable else mode.ownerExecutable

theorem maySearch_asPrivileged (tree : FileTree) (place : Place) :
    tree.asPrivileged.maySearch place = true := rfl

theorem maySearch_root (tree : FileTree) :
    tree.maySearch .root = true := by
  have hRoot : (tree.node? .root).any Node.ownerExecutable = true := rfl
  rw [maySearch, hRoot, Bool.or_true]

end FileTree

end Preflight
