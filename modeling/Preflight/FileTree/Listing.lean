import Preflight.FileTree.Lookup

/-!
# Trees from listings

A tree is described by a list of paths with what is made at each, in order.
Directories on the way that are not there yet are made as well; one that is
there, be it by way of a link, is entered. Who makes a tree is privileged, so
that a directory can be filled whatever its mode is, while the tree that is
made is its owner's.
-/

namespace Preflight

/-- Something to be made at a path. -/
structure Entry where
  path : Bytes
  node : Node

namespace FileTree

/-- The mode of a directory that is made on the way. -/
def wayMode : Mode := 0o755

/-- Enters a member of a directory, which is made if it is not there. -/
def enter (tree : FileTree) (here : Place) (name : Bytes) : FileTree × Place :=
  match tree.asPrivileged.walk Path.linkLimit here [name] with
  | .ok place => (tree, place)
  | .error _ =>
    (tree.insert (.within here name) (.directory wayMode), .within here name)

/-- Makes a node by the last of the given names and enters the others. -/
def makeAt (tree : FileTree) (here : Place) (node : Node) :
    List Bytes → FileTree
  | [] => tree
  | [name] => tree.insert (.within here name) node
  | name :: rest =>
    (tree.enter here name).1.makeAt (tree.enter here name).2 node rest

/-- Makes what an entry asks for. -/
def add (tree : FileTree) (entry : Entry) : FileTree :=
  tree.makeAt .root entry.node ((Path.parts entry.path).filter (· ≠ []))

/-- The tree that a listing describes. -/
def ofEntries (entries : List Entry) : FileTree :=
  entries.foldl add empty

end FileTree

end Preflight
