import Preflight.FileTree.Lookup

/-!
# What a path can lead to

A lookup ends at a place that is no link, for a link on the way is followed
at once and there is no way to stop in front of one. Going up does not lead
to a link either: a place is only entered through directories, and none of
them is a link. `Solid` is what a walk keeps of this, for the place reached
and every place above it. What a walk can do at all is said once, by `Step`.

So a path leads to a regular file, or to something that no search for a
file ends at: a directory, a special file, or nothing at all.

Which of them it is can be a matter of who asks. Permission only ever ends a
walk, though, and never leads it elsewhere: two users who are both led
somewhere are led to the same place.

## Main results

* `FileTree.walkWith_cons_eq_ok_iff` — a walk is made of steps.
* `FileTree.solid_of_walk` — a walk that begins at a solid place ends at one.
* `FileTree.not_regular_iff` — what a path leads to that is no regular file.
* `FileTree.find_asPrivileged` — a privileged user is led wherever the owner
  is led.
-/

namespace Preflight

namespace FileTree

variable {tree : FileTree}

/-! ## Steps of a walk -/

/-- A part that can be the name of a member. -/
structure Named (part : Bytes) : Prop where
  ne_nil : part ≠ []
  ne_dot : part ≠ Path.dot
  ne_dotDot : part ≠ Path.dotDot
  not_long : ¬ Path.nameLimit < part.length

/--
A step of a walk that ends at `place`: how its next part is followed from the
directory `here`, with `rest` behind it.
-/
inductive Step (tree : FileTree)
    (follow : Place → List Bytes → Except LookupError Place)
    (here place : Place) (rest : List Bytes) : Bytes → Prop
  | empty (hRest : tree.walkWith follow here rest = .ok place) :
    Step tree follow here place rest []
  | dot (hSearch : tree.maySearch here = true)
      (hRest : tree.walkWith follow here rest = .ok place) :
    Step tree follow here place rest Path.dot
  | dotDot (hSearch : tree.maySearch here = true)
      (hRest : tree.walkWith follow here.parent rest = .ok place) :
    Step tree follow here place rest Path.dotDot
  | link {name target : Bytes} (hSearch : tree.maySearch here = true)
      (hName : Named name)
      (hNode : tree.node? (.within here name) = some (.link target))
      (hRest : follow (start here target) (Path.parts target ++ rest)
        = .ok place) :
    Step tree follow here place rest name
  | member {name : Bytes} {node : Node} (hSearch : tree.maySearch here = true)
      (hName : Named name)
      (hNode : tree.node? (.within here name) = some node)
      (hLink : ∀ target, node ≠ .link target)
      (hRest : tree.walkWith follow (.within here name) rest = .ok place) :
    Step tree follow here place rest name

section Step

variable {follow : Place → List Bytes → Except LookupError Place}
  {here place : Place} {part : Bytes} {rest : List Bytes}
  (hDirectory : tree.isDirectory here = true)

include hDirectory

theorem walkWith_empty :
    tree.walkWith follow here ([] :: rest)
      = tree.walkWith follow here rest := by
  simp [walkWith, hDirectory]

variable (hSearch : tree.maySearch here = true)

include hSearch

theorem walkWith_dot :
    tree.walkWith follow here (Path.dot :: rest)
      = tree.walkWith follow here rest := by
  simp [walkWith, hDirectory, hSearch]

theorem walkWith_dotDot :
    tree.walkWith follow here (Path.dotDot :: rest)
      = tree.walkWith follow here.parent rest := by
  simp [walkWith, hDirectory, hSearch, Path.dot, Path.dotDot]

variable (hName : Named part)

include hName

theorem walkWith_missing (h : tree.node? (.within here part) = none) :
    tree.walkWith follow here (part :: rest) = .error .noSuchFile := by
  rw [walkWith, hDirectory, hSearch]
  simp [hName.ne_nil, hName.ne_dot, hName.ne_dotDot, hName.not_long, h]

theorem walkWith_link {target : Bytes}
    (h : tree.node? (.within here part) = some (.link target)) :
    tree.walkWith follow here (part :: rest)
      = follow (start here target) (Path.parts target ++ rest) := by
  rw [walkWith, hDirectory, hSearch]
  simp [hName.ne_nil, hName.ne_dot, hName.ne_dotDot, hName.not_long, h]

theorem walkWith_member {node : Node}
    (h : tree.node? (.within here part) = some node)
    (hLink : ∀ target, node ≠ .link target) :
    tree.walkWith follow here (part :: rest)
      = tree.walkWith follow (.within here part) rest := by
  rw [walkWith, hDirectory, hSearch]
  simp only [hName.ne_nil, hName.ne_dot, hName.ne_dotDot, hName.not_long, h]
  cases node with
  | link target => exact absurd rfl (hLink target)
  | file mode contents | directory mode | special mode => simp

omit hSearch hName

theorem walkWith_of_step (h : Step tree follow here place rest part) :
    tree.walkWith follow here (part :: rest) = .ok place := by
  cases h with
  | empty hRest =>
    rw [walkWith_empty hDirectory]
    exact hRest
  | dot hSearch hRest =>
    rw [walkWith_dot hDirectory hSearch]
    exact hRest
  | dotDot hSearch hRest =>
    rw [walkWith_dotDot hDirectory hSearch]
    exact hRest
  | link hSearch hName hNode hRest =>
    rw [walkWith_link hDirectory hSearch hName hNode]
    exact hRest
  | member hSearch hName hNode hLink hRest =>
    rw [walkWith_member hDirectory hSearch hName hNode hLink]
    exact hRest

omit hDirectory

/-- The step that is made is decided by the tests of the walk, in their order. -/
theorem step_of_walkWith
    (h : tree.walkWith follow here (part :: rest) = .ok place) :
    tree.isDirectory here = true ∧ Step tree follow here place rest part := by
  by_cases hDirectory : tree.isDirectory here = true
  case neg => simp [walkWith, hDirectory] at h
  refine ⟨hDirectory, ?_⟩
  by_cases hEmpty : part = []
  case pos =>
    subst hEmpty
    rw [walkWith_empty hDirectory] at h
    exact .empty h
  by_cases hSearch : tree.maySearch here = true
  case neg => simp [walkWith, hDirectory, hEmpty, hSearch] at h
  by_cases hDot : part = Path.dot
  case pos =>
    subst hDot
    rw [walkWith_dot hDirectory hSearch] at h
    exact .dot hSearch h
  by_cases hDotDot : part = Path.dotDot
  case pos =>
    subst hDotDot
    rw [walkWith_dotDot hDirectory hSearch] at h
    exact .dotDot hSearch h
  by_cases hLong : Path.nameLimit < part.length
  case pos =>
    simp [walkWith, hDirectory, hEmpty, hSearch, hDot, hDotDot, hLong] at h
  have hName : Named part := ⟨hEmpty, hDot, hDotDot, hLong⟩
  cases hNode : tree.node? (.within here part) with
  | none =>
    rw [walkWith_missing hDirectory hSearch hName hNode] at h
    cases h
  | some node =>
    by_cases hLink : ∃ target, node = .link target
    case pos =>
      obtain ⟨target, rfl⟩ := hLink
      rw [walkWith_link hDirectory hSearch hName hNode] at h
      exact .link hSearch hName hNode h
    have hPlain := not_exists.mp hLink
    rw [walkWith_member hDirectory hSearch hName hNode hPlain] at h
    exact .member hSearch hName hNode hPlain h

/-- A walk gets on from a directory, and by one of these steps. -/
theorem walkWith_cons_eq_ok_iff :
    tree.walkWith follow here (part :: rest) = .ok place ↔
      tree.isDirectory here = true ∧ Step tree follow here place rest part :=
  ⟨step_of_walkWith, fun h => walkWith_of_step h.1 h.2⟩

end Step

/-! ## Walks and links -/

/-- Neither at a place nor above it is a link. -/
def Solid (tree : FileTree) : Place → Prop
  | .outside | .root => True
  | .within directory name =>
    (∀ target, tree.node? (.within directory name) ≠ some (.link target)) ∧
      tree.Solid directory

theorem Solid.node?_ne_link {place : Place} (h : tree.Solid place)
    (target : Bytes) : tree.node? place ≠ some (.link target) := by
  cases place with
  | outside => exact nofun
  | root => exact nofun
  | within directory name => exact h.1 target

theorem Solid.parent {place : Place} (h : tree.Solid place) :
    tree.Solid place.parent := by
  cases place with
  | outside => exact trivial
  | root => exact trivial
  | within directory name => exact h.2

theorem Solid.start {here : Place} (h : tree.Solid here) (path : Bytes) :
    tree.Solid (FileTree.start here path) := by
  unfold FileTree.start
  split
  · exact trivial
  · exact h

/-- The step: between two links a walk stays at solid places. -/
theorem solid_of_walkWith
    {follow : Place → List Bytes → Except LookupError Place}
    (hFollow : ∀ here parts place, tree.Solid here →
      follow here parts = .ok place → tree.Solid place)
    {here place : Place} {parts : List Bytes} (hHere : tree.Solid here)
    (h : tree.walkWith follow here parts = .ok place) : tree.Solid place := by
  induction parts generalizing here with
  | nil =>
    cases h
    exact hHere
  | cons part rest ih =>
    obtain ⟨-, hStep⟩ := walkWith_cons_eq_ok_iff.mp h
    cases hStep with
    | empty hRest => exact ih hHere hRest
    | dot _ hRest => exact ih hHere hRest
    | dotDot _ hRest => exact ih hHere.parent hRest
    | link _ _ _ hRest => exact hFollow _ _ _ (hHere.start _) hRest
    | member _ _ hNode hLink hRest =>
      have hPart : tree.Solid (.within here part) := by
        refine ⟨?_, hHere⟩
        intro target hTarget
        rw [hNode] at hTarget
        exact hLink target (Option.some.inj hTarget)
      exact ih hPart hRest

/-- The run: and so it does over any number of links. -/
theorem solid_of_walk {links : Nat} {here place : Place} {parts : List Bytes}
    (hHere : tree.Solid here) (h : tree.walk links here parts = .ok place) :
    tree.Solid place := by
  induction links generalizing here place parts with
  | zero =>
    apply solid_of_walkWith _ hHere h
    intro _ _ _ _ hFollow
    cases hFollow
  | succ links ih =>
    apply solid_of_walkWith _ hHere h
    intro _ _ _
    exact ih

/-! ## Whole paths -/

theorem locate_eq_ok_iff {path : Bytes} {place : Place} :
    tree.locate path = .ok place ↔
      path.contains 0 = false ∧ path.isEmpty = false ∧
        tree.isTooLong path = false ∧
        tree.walk Path.linkLimit (start .root path) (Path.parts path)
          = .ok place := by
  unfold locate
  cases path.contains 0 <;> cases path.isEmpty <;>
    cases tree.isTooLong path <;> simp

theorem find_eq_ok_iff {path : Bytes} {node : Node} :
    tree.find path = .ok node ↔
      ∃ place, tree.locate path = .ok place ∧ tree.node? place = some node := by
  unfold find
  cases tree.locate path with
  | error cause => simp
  | ok place => cases hNode : tree.node? place <;> simp [hNode]

/-- No path leads to a link. -/
theorem find_ne_link (tree : FileTree) (path target : Bytes) :
    tree.find path ≠ .ok (.link target) := by
  intro h
  obtain ⟨place, hLocate, hNode⟩ := find_eq_ok_iff.mp h
  obtain ⟨-, -, -, hWalk⟩ := locate_eq_ok_iff.mp hLocate
  have hRoot : tree.Solid .root := trivial
  have hSolid : tree.Solid place := solid_of_walk (hRoot.start path) hWalk
  exact hSolid.node?_ne_link target hNode

/-! ## Regular files -/

/-- A path leads to a regular file. -/
def Regular (tree : FileTree) (path : Bytes) : Prop :=
  ∃ mode contents, tree.find path = .ok (.file mode contents)

theorem regular_iff {path : Bytes} :
    tree.Regular path ↔ tree.isFile path = true := by
  unfold Regular isFile
  cases tree.find path with
  | error cause => simp
  | ok node => cases node <;> simp [Node.isFile]

/-- What a path leads to that is no regular file. -/
theorem not_regular_iff {path : Bytes} :
    ¬ tree.Regular path ↔
      (∃ mode, tree.find path = .ok (.directory mode)) ∨
      (∃ mode, tree.find path = .ok (.special mode)) ∨
      ∃ cause, tree.find path = .error cause := by
  have hLink := tree.find_ne_link path
  unfold Regular
  cases hFind : tree.find path with
  | error cause => simp
  | ok node =>
    cases node with
    | file mode contents => simp
    | directory mode => simp
    | special mode => simp
    | link target => exact absurd hFind (hLink target)

/-! ## Permission -/

/-- The step: no part is followed elsewhere with more permission. -/
theorem walkWith_asPrivileged
    {follow wide : Place → List Bytes → Except LookupError Place}
    (hFollow : ∀ here parts place, follow here parts = .ok place →
      wide here parts = .ok place)
    {here place : Place} {parts : List Bytes}
    (h : tree.walkWith follow here parts = .ok place) :
    tree.asPrivileged.walkWith wide here parts = .ok place := by
  induction parts generalizing here with
  | nil => exact h
  | cons part rest ih =>
    obtain ⟨hDirectory, hStep⟩ := walkWith_cons_eq_ok_iff.mp h
    refine walkWith_cons_eq_ok_iff.mpr ⟨hDirectory, ?_⟩
    have hSearch := tree.maySearch_asPrivileged here
    cases hStep with
    | empty hRest => exact .empty (ih hRest)
    | dot _ hRest => exact .dot hSearch (ih hRest)
    | dotDot _ hRest => exact .dotDot hSearch (ih hRest)
    | link _ hName hNode hRest =>
      exact .link hSearch hName hNode (hFollow _ _ _ hRest)
    | member _ hName hNode hLink hRest =>
      exact .member hSearch hName hNode hLink (ih hRest)

/-- The run: and so it is over any number of links. -/
theorem walk_asPrivileged {links : Nat} {here place : Place}
    {parts : List Bytes} (h : tree.walk links here parts = .ok place) :
    tree.asPrivileged.walk links here parts = .ok place := by
  induction links generalizing here place parts with
  | zero => exact walkWith_asPrivileged (fun _ _ _ hFollow => hFollow) h
  | succ links ih => exact walkWith_asPrivileged (fun _ _ _ => ih) h

/-- What the owner is led to by a path a privileged user is led to as well. -/
theorem find_asPrivileged {path : Bytes} {node : Node}
    (h : tree.find path = .ok node) :
    tree.asPrivileged.find path = .ok node := by
  obtain ⟨place, hLocate, hNode⟩ := find_eq_ok_iff.mp h
  obtain ⟨hZero, hSome, hShort, hWalk⟩ := locate_eq_ok_iff.mp hLocate
  have hPlace : tree.asPrivileged.locate path = .ok place :=
    locate_eq_ok_iff.mpr ⟨hZero, hSome, hShort, walk_asPrivileged hWalk⟩
  exact find_eq_ok_iff.mpr ⟨place, hPlace, hNode⟩

end FileTree

end Preflight
