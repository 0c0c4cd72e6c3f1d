import Preflight.Proofs.FileTree.Lookup

/-!
# Spellings of a path

A path can be spelled in many ways. Where it has a slash it may have several,
and a dot between two of them, for an empty part and a dot both stay where
they are. What they do ask for is that this is a directory, and the dot that
it may be searched too. That is no demand of their own as long as another part
follows that is not empty: it would be followed from such a directory only. So
one that stays can be put in front of such a part of a path but cannot be
appended to it.

The part may stand anywhere, behind parts that turn out to be links too. A
link puts the parts of its target before those still to go, and these still
end in the same way. What a path leads to, be it nothing, is therefore not a
matter of its spelling, apart from the length that the spelling has.

## Main results

* `FileTree.walk_idle` — a part that stays in front of one that is not empty
  changes no walk.
* `FileTree.find_idle` — nor does it change what a path leads to.
* `FileTree.find_of_member` — a plain name leads to the member that has it.
-/

namespace Preflight

namespace Path

/-! ## Parts -/

/-- A part that stays where it is. -/
def Idle (part : Bytes) : Prop := part = [] ∨ part = dot

/-- A path that begins with a part that is not empty. -/
structure IsRelative (path : Bytes) : Prop where
  ne_nil : path ≠ []
  isAbsolute_eq : isAbsolute path = false

theorem IsRelative.exists_parts_eq {path : Bytes} (h : IsRelative path) :
    ∃ part rest, parts path = part :: rest ∧ part ≠ [] := by
  cases path with
  | nil => exact absurd rfl h.ne_nil
  | cons first path =>
    obtain ⟨part, rest, hParts⟩ :=
      List.exists_cons_of_ne_nil (List.splitOn_ne_nil slash path)
    have hFirst : first ≠ slash := by
      simpa [isAbsolute] using h.isAbsolute_eq
    refine ⟨first :: part, rest, ?_, List.cons_ne_nil first part⟩
    show (first :: path).splitOn slash = _
    simp [List.splitOn_cons_eq_if_modifyHead, hFirst, hParts]

theorem parts_append_slash (front back : Bytes) :
    parts (front ++ slash :: back) = parts front ++ parts back :=
  List.splitOn_append_cons_self front back

theorem parts_of_slash_not_mem {part : Bytes} (h : slash ∉ part) :
    parts part = [part] :=
  List.splitOn_eq_singleton h

/-- An idle part is made of dots. -/
theorem Idle.not_mem {part : Bytes} (h : Idle part) {byte : UInt8}
    (hByte : byte ≠ 0x2E) : byte ∉ part := by
  cases h with
  | inl hEmpty =>
    rw [hEmpty]
    exact List.not_mem_nil
  | inr hDot =>
    rw [hDot]
    exact List.not_mem_cons_of_ne_of_not_mem hByte List.not_mem_nil

theorem Idle.parts_eq {part : Bytes} (h : Idle part) : parts part = [part] :=
  parts_of_slash_not_mem (h.not_mem (by decide))

/-- A name that a file can have. -/
structure IsName (name : Bytes) : Prop where
  not_idle : ¬ Idle name
  ne_dotDot : name ≠ dotDot
  slash_not_mem : slash ∉ name
  zero_not_mem : 0 ∉ name
  length_le : name.length ≤ nameLimit

end Path

namespace FileTree

variable {tree : FileTree}

/-! ## Walks -/

/-- The step: between two links an idle part is passed at the part behind it. -/
theorem walkWith_idle
    {follow : Place → List Bytes → Except LookupError Place}
    {idle part : Bytes} (hIdle : Path.Idle idle) (hPart : part ≠ [])
    (rest : List Bytes)
    (hFollow : ∀ here front, follow here (front ++ idle :: part :: rest)
      = follow here (front ++ part :: rest)) (here : Place)
    (front : List Bytes) :
    tree.walkWith follow here (front ++ idle :: part :: rest)
      = tree.walkWith follow here (front ++ part :: rest) := by
  induction front generalizing here with
  | nil => exact tree.walkWith_stay follow here hIdle hPart rest
  | cons next front ih =>
    rw [List.cons_append, List.cons_append, walkWith, walkWith, ih, ih]
    cases tree.node? (.within here next) with
    | none => rfl
    | some node =>
      cases node with
      | link target =>
        -- The parts of the target only make the front longer.
        have hTarget := hFollow (start here target) (Path.parts target ++ front)
        rw [List.append_assoc, List.append_assoc] at hTarget
        simp only [hTarget]
      | file mode contents | directory mode | special mode =>
        simp only [ih]

/-- The run: and so it is over any number of links. -/
theorem walk_idle {idle part : Bytes} (hIdle : Path.Idle idle)
    (hPart : part ≠ []) (rest : List Bytes) (links : Nat) (here : Place)
    (front : List Bytes) :
    tree.walk links here (front ++ idle :: part :: rest)
      = tree.walk links here (front ++ part :: rest) := by
  induction links generalizing here front with
  | zero => exact walkWith_idle hIdle hPart rest (fun _ _ => rfl) here front
  | succ links ih => exact walkWith_idle hIdle hPart rest ih here front

/-! ## Whole paths -/

theorem isAbsolute_append_slash (front back : Bytes) :
    Path.isAbsolute (front ++ Path.slash :: back)
      = (front.isEmpty || Path.isAbsolute front) := by
  cases front <;> simp [Path.isAbsolute]

theorem isTooLong_eq_false_iff {path : Bytes} :
    tree.isTooLong path = false ↔
      ∀ limit, tree.pathLimit = some limit → path.length < limit := by
  unfold isTooLong
  cases tree.pathLimit with
  | none => simp
  | some limit => simp

/-- A path is not too long if it is no longer than one that is not. -/
theorem isTooLong_of_le {path other : Bytes} (h : path.length ≤ other.length)
    (hOther : tree.isTooLong other = false) : tree.isTooLong path = false := by
  rw [isTooLong_eq_false_iff] at hOther ⊢
  intro limit hLimit
  exact Nat.lt_of_le_of_lt h (hOther limit hLimit)

section Idle

variable {idle : Bytes} (hIdle : Path.Idle idle) (front back : Bytes)

include hIdle

theorem contains_zero_idle :
    (front ++ Path.slash :: (idle ++ Path.slash :: back)).contains 0
      = (front ++ Path.slash :: back).contains 0 := by
  have hSlash : (0 : UInt8) ≠ Path.slash := by decide
  have hZero : 0 ∉ idle := hIdle.not_mem (by decide)
  simp [hSlash, hZero]

theorem walk_parts_idle (hBack : Path.IsRelative back) (links : Nat)
    (here : Place) :
    tree.walk links here
        (Path.parts (front ++ Path.slash :: (idle ++ Path.slash :: back)))
      = tree.walk links here
        (Path.parts (front ++ Path.slash :: back)) := by
  obtain ⟨part, rest, hParts, hPart⟩ := hBack.exists_parts_eq
  rw [Path.parts_append_slash, Path.parts_append_slash,
    Path.parts_append_slash, hIdle.parts_eq, hParts]
  exact walk_idle hIdle hPart rest links here (Path.parts front)

/-- A part that stays may be put in front of any that is not empty. -/
theorem find_idle (hBack : Path.IsRelative back)
    (h : tree.isTooLong
      (front ++ Path.slash :: (idle ++ Path.slash :: back)) = false) :
    tree.find (front ++ Path.slash :: (idle ++ Path.slash :: back))
      = tree.find (front ++ Path.slash :: back) := by
  have hShort : tree.isTooLong (front ++ Path.slash :: back) = false := by
    apply isTooLong_of_le _ h
    simp only [List.length_append, List.length_cons]
    omega
  have hSome : ∀ more,
      (front ++ Path.slash :: more : Bytes).isEmpty = false := by
    intro more
    simp
  have hStart : ∀ more, start .root (front ++ Path.slash :: more)
      = start .root (front ++ [Path.slash]) := by
    intro more
    rw [start, start, isAbsolute_append_slash, isAbsolute_append_slash]
  have hLocate : tree.locate
        (front ++ Path.slash :: (idle ++ Path.slash :: back))
      = tree.locate (front ++ Path.slash :: back) := by
    rw [locate, locate, contains_zero_idle hIdle, hSome, hSome, h, hShort,
      walk_parts_idle hIdle front back hBack, hStart (idle ++ _), hStart back]
  rw [find, find, hLocate]

end Idle

/-! ## Members of the starting directory -/

/-- A path without a slash is read where relative paths start. -/
theorem start_of_slash_not_mem {path : Bytes} (h : Path.slash ∉ path)
    (here : Place) : start here path = here := by
  cases path with
  | nil => rfl
  | cons first rest =>
    have hFirst : first ≠ Path.slash := (List.ne_of_not_mem_cons h).symm
    simp [start, Path.isAbsolute, hFirst]

theorem Named.of_isName {name : Bytes} (h : Path.IsName name) : Named name := by
  obtain ⟨hEmpty, hDot⟩ := not_or.mp h.not_idle
  exact ⟨hEmpty, hDot, h.ne_dotDot, Nat.not_lt.mpr h.length_le⟩

/-- A name by itself leads to the file that the starting directory has by it. -/
theorem find_of_member {name : Bytes} (hName : Path.IsName name)
    (hShort : tree.isTooLong name = false) {mode : Mode} {contents : Script}
    (h : tree.node? (.within .root name) = some (.file mode contents)) :
    tree.find name = .ok (.file mode contents) := by
  have hNamed : Named name := .of_isName hName
  have hZero : name.contains 0 = false := by
    simpa using hName.zero_not_mem
  have hSome : name.isEmpty = false := by
    simpa using hNamed.ne_nil
  have hWalk : tree.walk Path.linkLimit (start .root name) (Path.parts name)
      = .ok (.within .root name) := by
    rw [start_of_slash_not_mem hName.slash_not_mem,
      Path.parts_of_slash_not_mem hName.slash_not_mem]
    exact walkWith_cons_eq_ok_iff.mpr
      ⟨rfl, .member tree.maySearch_root hNamed h nofun rfl⟩
  exact find_eq_ok_iff.mpr
    ⟨_, locate_eq_ok_iff.mpr ⟨hZero, hSome, hShort, hWalk⟩, h⟩

end FileTree

end Preflight
