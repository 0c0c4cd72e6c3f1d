import Preflight.Proofs.Field

/-!
# Fields by a pattern

The fields of a line can also be told by a pattern, `\s*(\S+)(?:\s+(\S+))?`:
blanks, a first field, and perhaps blanks and a second one. A pattern can
mostly be read in several ways, so it takes an order to say which of them
counts. `Pattern.ways` lists all ways to read a pattern at the front of a
text, in the order in which a matcher tries them that takes as much as it can
and gives back what it has to. The first of them is what such a matcher finds.

For fields the order is of little consequence. A field does not begin with a
blank, so a matcher that gives blanks back never finds one behind those it
keeps, and the first way is the one that takes everything it can.

## Main results

* `exists_takings_eq` — the first way to take characters of a class takes
  all of them, and every other stops in front of one.
* `Pattern.found_blanks_seq`, `Pattern.found_blank_seq` — what cannot begin
  with a blank stands behind all the blanks there are.
* `patternToken?_eq` — the token of a line is what the pattern finds in it.
-/

namespace Preflight

/-! ## Patterns -/

/-- A pattern of texts, with groups that are remembered by a number. -/
inductive Pattern where
  /-- A character of a class. -/
  | one (among : Char → Bool)
  /-- Any number of characters of a class, as many as possible. -/
  | many (among : Char → Bool)
  /-- One pattern behind another. -/
  | seq (front back : Pattern)
  /-- A pattern, or nothing where it cannot be read. -/
  | optional (inner : Pattern)
  /-- A pattern whose text is remembered. -/
  | group (number : Nat) (inner : Pattern)

/-- One way to read a pattern at the front of a text. -/
structure Way where
  /-- The text that is read. -/
  taken : List Char
  /-- The groups that are remembered. -/
  groups : List (Nat × List Char)
  /-- The text behind it. -/
  rest : List Char

/-- A way, and another one behind it. -/
def Way.followedBy (way next : Way) : Way :=
  ⟨way.taken ++ next.taken, way.groups ++ next.groups, next.rest⟩

/-- The ways to take characters of a class, the one that takes most first. -/
def takings (among : Char → Bool) : List Char → List (List Char × List Char)
  | [] => [([], [])]
  | c :: rest =>
    if among c then
      (takings among rest).map (fun taking => (c :: taking.1, taking.2))
        ++ [([], c :: rest)]
    else [([], c :: rest)]

namespace Pattern

/-- The ways to read a pattern, in the order in which they are tried. -/
def ways : Pattern → List Char → List Way
  | one _, [] => []
  | one among, c :: rest => if among c then [⟨[c], [], rest⟩] else []
  | many among, text =>
    (takings among text).map fun taking => ⟨taking.1, [], taking.2⟩
  | seq front back, text =>
    (front.ways text).flatMap fun way =>
      (back.ways way.rest).map way.followedBy
  | optional inner, text => inner.ways text ++ [⟨[], [], text⟩]
  | group number inner, text =>
    (inner.ways text).map fun way =>
      { way with groups := (number, way.taken) :: way.groups }

/-- The groups of the first way to read a pattern, if there is one. -/
def found (pattern : Pattern) (text : List Char) :
    Option (List (Nat × List Char)) :=
  (pattern.ways text).head?.map Way.groups

/-- At least one character of a class, and as many as possible. -/
def more (among : Char → Bool) : Pattern := seq (one among) (many among)

/-- A field, remembered by a number. -/
def field (number : Nat) : Pattern := group number (more (!isBlank ·))

/-- Blanks and a second field. -/
def secondField : Pattern := seq (more isBlank) (field 2)

/-- The first field, and the second if there is one. -/
def fieldsAtOnce : Pattern := seq (field 1) (optional secondField)

/-- The fields of a line, `\s*(\S+)(?:\s+(\S+))?`. -/
def fields : Pattern := seq (many isBlank) fieldsAtOnce

end Pattern

/-- The token that the pattern finds in a line: its second group, else its first. -/
def patternToken? (line : List Char) : Option (List Char) :=
  (Pattern.fields.found line).bind fun groups =>
    (groups.lookup 2).or (groups.lookup 1)

/-! ## Runs of a class -/

/--
The first way to take characters of a class takes all of them. Every other
stops in front of one.
-/
theorem exists_takings_eq (among : Char → Bool) (text : List Char) :
    ∃ others, takings among text
        = (text.takeWhile among, text.dropWhile among) :: others ∧
      ∀ taking ∈ others, ∃ c rest,
        taking.2 = c :: rest ∧ among c = true := by
  induction text with
  | nil => exact ⟨[], rfl, nofun⟩
  | cons c rest ih =>
    cases h : among c with
    | false => exact ⟨[], by simp [takings, h], nofun⟩
    | true =>
      obtain ⟨others, hTakings, hOthers⟩ := ih
      refine ⟨others.map (fun taking => (c :: taking.1, taking.2))
        ++ [([], c :: rest)], by simp [takings, h, hTakings], ?_⟩
      intro taking hTaking
      rcases List.mem_append.mp hTaking with hMore | hNothing
      · obtain ⟨shorter, hShorter, rfl⟩ := List.mem_map.mp hMore
        exact hOthers shorter hShorter
      · rw [List.mem_singleton.mp hNothing]
        exact ⟨c, rest, rfl, h⟩

namespace Pattern

section Class

variable {among : Char → Bool} {c : Char}

theorem ways_more_of_not (h : among c = false) (rest : List Char) :
    (more among).ways (c :: rest) = [] := by
  simp [more, ways, h]

theorem ways_more (h : among c = true) (rest : List Char) :
    (more among).ways (c :: rest)
      = (takings among rest).map
          fun taking => ⟨c :: taking.1, [], taking.2⟩ := by
  simp [more, ways, Way.followedBy, h, Function.comp_def]

end Class

/-! ## What stands behind blanks -/

section Blanks

variable {back : Pattern}
  (hBack : ∀ c rest, isBlank c = true → back.ways (c :: rest) = [])

include hBack

/--
Behind the blanks that a matcher keeps when it gives some back nothing is
found that does not begin with a blank.
-/
private theorem flatMap_takings (step : List Char × List Char → Way)
    (hStep : ∀ taking, (step taking).rest = taking.2) (text : List Char) :
    ((takings isBlank text).map step).flatMap
        (fun way => (back.ways way.rest).map way.followedBy)
      = (back.ways (text.dropWhile isBlank)).map
          (step (text.takeWhile isBlank, text.dropWhile isBlank)).followedBy
      := by
  obtain ⟨others, hTakings, hOthers⟩ := exists_takings_eq isBlank text
  have hNothing : (others.map step).flatMap
      (fun way => (back.ways way.rest).map way.followedBy) = [] := by
    rw [List.flatMap_eq_nil_iff]
    intro way hWay
    obtain ⟨taking, hTaking, rfl⟩ := List.mem_map.mp hWay
    obtain ⟨c, rest, hRest, hBlank⟩ := hOthers taking hTaking
    rw [hStep, hRest, hBack c rest hBlank, List.map_nil]
  rw [hTakings, List.map_cons, List.flatMap_cons, hNothing, List.append_nil,
    hStep]

/-- What cannot begin with a blank is found behind all the blanks, or not. -/
theorem found_blanks_seq (text : List Char) :
    (seq (many isBlank) back).found text
      = back.found (text.dropWhile isBlank) := by
  rw [found, ways, ways, flatMap_takings hBack _ (fun _ => rfl), found,
    List.head?_map, Option.map_map]
  rfl

theorem found_blank_seq {c : Char} (h : isBlank c = true) (rest : List Char) :
    (seq (more isBlank) back).found (c :: rest)
      = back.found (rest.dropWhile isBlank) := by
  rw [found, ways, ways_more h, flatMap_takings hBack _ (fun _ => rfl), found,
    List.head?_map, Option.map_map]
  rfl

end Blanks

/-! ## First ways -/

theorem found_optional (inner : Pattern) (text : List Char) :
    (optional inner).found text = some ((inner.found text).getD []) := by
  rw [found, found, ways]
  cases inner.ways text <;> rfl

/-- The first way to read one pattern, and behind it the first of another. -/
theorem found_seq {front back : Pattern} {text : List Char} {way : Way}
    {others : List Way} {groups : List (Nat × List Char)}
    (hFront : front.ways text = way :: others)
    (hBack : back.found way.rest = some groups) :
    (seq front back).found text = some (way.groups ++ groups) := by
  rw [found] at hBack
  obtain ⟨next, hNext, rfl⟩ := Option.map_eq_some_iff.mp hBack
  rw [found, ways, hFront, List.flatMap_cons, List.head?_append,
    List.head?_map, hNext]
  rfl

/-! ## Fields -/

theorem ways_field_of_blank (number : Nat) (c : Char) (rest : List Char)
    (h : isBlank c = true) : (field number).ways (c :: rest) = [] := by
  rw [field, ways, ways_more_of_not (by rw [h]; rfl), List.map_nil]

/-- Where a field begins, all of it is read first. -/
theorem exists_ways_field_eq (number : Nat) {c : Char}
    (h : isBlank c = false) (rest : List Char) :
    let taken := (c :: rest).takeWhile (!isBlank ·)
    ∃ others, (field number).ways (c :: rest)
      = ⟨taken, [(number, taken)], (c :: rest).dropWhile (!isBlank ·)⟩
          :: others := by
  have hSolid : (!isBlank c) = true := by rw [h]; rfl
  obtain ⟨others, hTakings, -⟩ := exists_takings_eq (!isBlank ·) rest
  rw [field, ways, ways_more hSolid, hTakings]
  simp [h]

/-- Behind blanks the next field is found, if there is one. -/
theorem found_field (number : Nat) (text : List Char) :
    (field number).found (text.dropWhile isBlank)
      = if (nextField text).1 = [] then none
        else some [(number, (nextField text).1)] := by
  cases hDrop : text.dropWhile isBlank with
  | nil =>
    rw [if_pos (by rw [nextField_of_blank hDrop])]
    rfl
  | cons c rest =>
    have hSolid := isBlank_of_dropWhile hDrop
    obtain ⟨others, hWays⟩ := exists_ways_field_eq number hSolid rest
    have hField : (nextField text).1 = (c :: rest).takeWhile (!isBlank ·) := by
      rw [nextField, hDrop]
    rw [hField, if_neg (by simp [hSolid]), found, hWays]
    rfl

/-- So it is where a blank is needed in front, if the text begins with one. -/
theorem found_secondField {text : List Char} (h : Ends text) :
    secondField.found text
      = if (nextField text).1 = [] then none
        else some [(2, (nextField text).1)] := by
  rcases h with rfl | ⟨c, rest, rfl, hBlank⟩
  · rfl
  · rw [secondField, found_blank_seq (ways_field_of_blank 2) hBlank,
      found_field, nextField_cons_blank hBlank]

/-- What the pattern finds: the first field, and the second. -/
theorem found_fields (line : List Char) :
    fields.found line =
      if (nextField line).1 = [] then none
      else if (nextField (nextField line).2).1 = [] then
        some [(1, (nextField line).1)]
      else some [(1, (nextField line).1),
        (2, (nextField (nextField line).2).1)] := by
  have hBlank : ∀ c rest, isBlank c = true →
      fieldsAtOnce.ways (c :: rest) = [] := by
    intro c rest h
    rw [fieldsAtOnce, ways, ways_field_of_blank 1 c rest h, List.flatMap_nil]
  rw [fields, found_blanks_seq hBlank]
  cases hDrop : line.dropWhile isBlank with
  | nil =>
    rw [if_pos (by rw [nextField_of_blank hDrop])]
    rfl
  | cons c rest =>
    have hSolid := isBlank_of_dropWhile hDrop
    have hLine : nextField line = ((c :: rest).takeWhile (!isBlank ·),
        (c :: rest).dropWhile (!isBlank ·)) := by
      rw [nextField, hDrop]
    have hFirst : (nextField line).1 ≠ [] := by
      rw [hLine]
      simp [hSolid]
    have hEnds : Ends (nextField line).2 := by
      rw [hLine]
      exact ends_dropWhile _
    obtain ⟨others, hWays⟩ := exists_ways_field_eq 1 hSolid rest
    have hSecond := found_optional secondField (nextField line).2
    rw [found_secondField hEnds, hLine] at hSecond
    rw [fieldsAtOnce, found_seq hWays hSecond, if_neg hFirst, hLine]
    split <;> rfl

end Pattern

/-- The token of a line is what the pattern finds in it. -/
theorem patternToken?_eq (line : List Char) :
    patternToken? line = lineToken? line := by
  rw [patternToken?, Pattern.found_fields, lineToken?_eq]
  split
  · rfl
  · split <;> rfl

end Preflight
