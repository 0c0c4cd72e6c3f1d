import Preflight.Proofs.CommandLine.Reader

/-!
# The grammar of the command line

A command line that is accepted is a list of items, none of which names an
option that another one names, and perhaps two dashes at the end. The items
can be told from the arguments: a reader with nothing pending takes one
item after another, and adds to what is settled just what the item says.

Both directions follow the items. `Reader.read_item` says what a reader
makes of the arguments of one item, `Reader.exists_item_of_read` that it
accepts nothing but the arguments of an item, and the statements on whole
command lines are inductions over these two. What the reader has settled is
all it knows of the items behind it, so the inductions are for any reader
that has settled none of the options still to come.

## Main results

* `Reader.read_items` — a list of items is settled item by item.
* `Reader.exists_items_of_read` — what is accepted is such a list.
-/

namespace Preflight

/-- A part of a command line that gives one option. -/
inductive Item where
  | flag (f : Flag)
  /-- A setting, with its value behind an equals sign. -/
  | glued (s : Setting) (text : String)
  /-- A setting, with its value in an argument of its own. -/
  | spaced (s : Setting) (text : String)
  deriving DecidableEq

namespace Item

/-- The option that an item gives. -/
def name : Item → Name
  | .flag f => .flag f
  | .glued s _ | .spaced s _ => .setting s

/-- The arguments that an item takes up. -/
def arguments : Item → List Bytes
  | .flag f => [Utf8.encode ("--" ++ (Name.flag f).spelling)]
  | .glued s text => [Utf8.encode ("--" ++ s.spelling ++ "=" ++ text)]
  | .spaced s text => [Utf8.encode ("--" ++ s.spelling), Utf8.encode text]

theorem length_arguments_pos (item : Item) : 0 < item.arguments.length := by
  cases item <;> exact Nat.zero_lt_succ _

/-- A value by itself does not look like an option. -/
def WellFormed : Item → Prop
  | .flag _ | .glued _ _ => True
  | .spaced _ text => text = "-" ∨ text.toList.head? ≠ some '-'

def flags : Item → List Flag
  | .flag f => [f]
  | .glued _ _ | .spaced _ _ => []

def values : Item → List (Setting × String)
  | .flag _ => []
  | .glued s text | .spaced s text => [(s, text)]

end Item

/-- Items, and perhaps two dashes behind them, make up a command line. -/
structure Spells (items : List Item) (arguments : List Bytes) : Prop where
  spelled : arguments = items.flatMap Item.arguments ∨
    arguments = items.flatMap Item.arguments ++ [Utf8.encode "--"]
  wellFormed : ∀ item ∈ items, item.WellFormed
  once : (items.map Item.name).Nodup

/-- A value glued to its setting is found in the arguments of one item only. -/
theorem Item.eq_glued_of_mem {item : Item} (hForm : item.WellFormed)
    {s : Setting} {text : String}
    (h : Utf8.encode ("--" ++ s.spelling ++ "=" ++ text) ∈ item.arguments) :
    item = .glued s text := by
  have hWord := Word.ofBytes_glued s text
  cases item with
  | flag f =>
    rw [List.mem_singleton.mp h, Word.ofBytes_flag] at hWord
    cases hWord
  | glued other value =>
    rw [List.mem_singleton.mp h, Word.ofBytes_glued] at hWord
    obtain ⟨rfl, hValue⟩ := Word.setting.inj hWord
    rw [Utf8.encode_injective (Option.some.inj hValue)]
  | spaced other value =>
    cases List.mem_cons.mp h with
    | inl hName =>
      rw [hName, Word.ofBytes_setting] at hWord
      cases hWord
    | inr hValue =>
      have hPlain := Word.isPlain_encode_iff.mpr hForm
      rw [List.mem_singleton.mp hValue,
        Word.ofBytes_eq_plain_iff.mpr ⟨hPlain, rfl⟩] at hWord
      cases hWord

theorem Spells.glued_mem {items : List Item} {arguments : List Bytes}
    (h : Spells items arguments) {s : Setting} {text : String}
    (hMem : Utf8.encode ("--" ++ s.spelling ++ "=" ++ text) ∈ arguments) :
    .glued s text ∈ items := by
  have hItems : Utf8.encode ("--" ++ s.spelling ++ "=" ++ text)
      ∈ items.flatMap Item.arguments := by
    cases h.spelled with
    | inl hSpelled =>
      rw [← hSpelled]
      exact hMem
    | inr hSpelled =>
      rw [hSpelled] at hMem
      refine (List.mem_append.mp hMem).resolve_right ?_
      intro hDashes
      have hWord := Word.ofBytes_glued s text
      rw [List.mem_singleton.mp hDashes] at hWord
      cases hWord
  obtain ⟨item, hItem, hArgument⟩ := List.mem_flatMap.mp hItems
  rw [← Item.eq_glued_of_mem (h.wellFormed item hItem) hArgument]
  exact hItem

/-! ## What is settled by items -/

namespace Given

/-- What is settled after an item. -/
def add (given : Given) (item : Item) : Given :=
  ⟨given.flags ++ item.flags, given.values ++ item.values⟩

theorem value?_add (given : Given) (item : Item) (s : Setting) :
    (given.add item).value? s = (given.value? s).or (item.values.lookup s) :=
  List.lookup_append

theorem has_add {given : Given} {item : Item} {name : Name} :
    (given.add item).Has name ↔ given.Has name ∨ name = item.name := by
  cases name with
  | flag f => cases item <;> simp [Has, add, Item.flags, Item.name]
  | setting s =>
    simp only [Has, value?_add, Option.isSome_or, Bool.or_eq_true]
    cases item <;> simp [Item.values, Item.name]
  | inquiry q => cases item <;> simp [Has, Item.name]

theorem has_addAll {given : Given} {items : List Item} {name : Name} :
    (items.foldl add given).Has name ↔
      given.Has name ∨ name ∈ items.map Item.name := by
  induction items generalizing given with
  | nil => simp
  | cons item rest ih =>
    rw [List.foldl_cons, ih, has_add, List.map_cons, List.mem_cons, or_assoc]

theorem mem_flags_addAll {given : Given} {items : List Item} {f : Flag} :
    f ∈ (items.foldl add given).flags ↔ f ∈ given.flags ∨ .flag f ∈ items := by
  induction items generalizing given with
  | nil => simp
  | cons item rest ih =>
    have hItem : f ∈ item.flags ↔ .flag f = item := by
      cases item <;> simp [Item.flags]
    rw [List.foldl_cons, ih, add, List.mem_append, hItem, List.mem_cons,
      or_assoc]

/-- A value that is settled is not settled again. -/
theorem value?_addAll_of_some {given : Given} {items : List Item}
    {s : Setting} {text : String} (h : given.value? s = some text) :
    (items.foldl add given).value? s = some text := by
  induction items generalizing given with
  | nil => exact h
  | cons item rest ih =>
    apply ih
    rw [value?_add, h]
    rfl

/-- The value of an item is settled, unless one was settled before. -/
theorem value?_addAll_of_mem {given : Given} {items : List Item} {item : Item}
    {s : Setting} {text : String} (hOnce : (items.map Item.name).Nodup)
    (hNew : ¬ given.Has (.setting s)) (hMem : item ∈ items)
    (hItem : item = .glued s text ∨ item = .spaced s text) :
    (items.foldl add given).value? s = some text := by
  have hName : item.name = .setting s := by
    rcases hItem with rfl | rfl <;> rfl
  have hValue : item.values.lookup s = some text := by
    rcases hItem with rfl | rfl <;> exact List.lookup_cons_self
  induction items generalizing given with
  | nil => cases hMem
  | cons first rest ih =>
    rw [List.map_cons, List.nodup_cons] at hOnce
    rw [List.foldl_cons]
    cases List.mem_cons.mp hMem with
    | inl hFirst =>
      have hNone : given.value? s = none := by
        simpa [Has] using hNew
      apply value?_addAll_of_some
      rw [← hFirst, value?_add, hNone, hValue]
      rfl
    | inr hRest =>
      refine ih hOnce.2 ?_ hRest
      rw [has_add, not_or]
      refine ⟨hNew, ?_⟩
      intro hSame
      apply hOnce.1
      rw [← hSame, ← hName]
      exact List.mem_map_of_mem hRest

end Given

/-! ## Reading items -/

theorem Given.addValue_encode {given : Given} {s : Setting}
    (hNew : ¬ given.Has (.setting s)) (text : String) :
    given.addValue s (Utf8.encode text)
      = .ok { given with values := given.values ++ [(s, text)] } :=
  addValue_eq_ok_iff.mpr ⟨hNew, text, rfl, rfl⟩

namespace Reader

/-- A reader with nothing pending takes the arguments of an item. -/
theorem read_item {given : Given} {item : Item} (hForm : item.WellFormed)
    (hNew : ¬ given.Has item.name) (rest : List Bytes) :
    read ⟨given, none⟩ (item.arguments ++ rest)
      = read ⟨given.add item, none⟩ rest := by
  cases item with
  | flag f =>
    have hAdd : given.addFlag f
        = .ok { given with flags := given.flags ++ [f] } :=
      Given.addFlag_eq_ok_iff.mpr ⟨hNew, rfl⟩
    show read _ (_ :: rest) = _
    rw [read_cons (Word.ofBytes_flag f) nofun, take_flag, hAdd, Given.add,
      Item.values, List.append_nil]
    rfl
  | glued s text =>
    show read _ (_ :: rest) = _
    rw [read_cons (Word.ofBytes_glued s text) nofun, take_glued,
      Given.addValue_encode hNew, Given.add, Item.flags, List.append_nil]
    rfl
  | spaced s text =>
    have hPlain : Word.ofBytes (Utf8.encode text) = .plain (Utf8.encode text) :=
      Word.ofBytes_eq_plain_iff.mpr ⟨Word.isPlain_encode_iff.mpr hForm, rfl⟩
    have hPending : read ⟨given, none⟩
        ((Item.spaced s text).arguments ++ rest)
          = read ⟨given, some (s, some (Utf8.encode text))⟩ rest := by
      show read _ (_ :: _ :: rest) = _
      rw [read_cons (Word.ofBytes_setting s) nofun]
      show read _ (_ :: rest) = _
      rw [read_cons hPlain nofun]
      rfl
    rw [hPending, read_settled (Given.addValue_encode hNew text), Given.add,
      Item.flags, List.append_nil]
    rfl

/-- Items are settled one after another. -/
theorem read_items {given : Given} {items : List Item}
    (hForm : ∀ item ∈ items, item.WellFormed)
    (hOnce : (items.map Item.name).Nodup)
    (hNew : ∀ item ∈ items, ¬ given.Has item.name) (rest : List Bytes) :
    read ⟨given, none⟩ (items.flatMap Item.arguments ++ rest)
      = read ⟨items.foldl Given.add given, none⟩ rest := by
  induction items generalizing given with
  | nil => rfl
  | cons item others ih =>
    rw [List.map_cons, List.nodup_cons] at hOnce
    rw [List.flatMap_cons, List.append_assoc,
      read_item (hForm item List.mem_cons_self) (hNew item List.mem_cons_self),
      List.foldl_cons]
    apply ih
    · intro other hOther
      exact hForm other (List.mem_cons_of_mem item hOther)
    · exact hOnce.2
    · intro other hOther
      rw [Given.has_add, not_or]
      refine ⟨hNew other (List.mem_cons_of_mem item hOther), ?_⟩
      intro hSame
      apply hOnce.1
      rw [← hSame]
      exact List.mem_map_of_mem hOther

/-- What a reader with nothing pending accepts begins with an item, or ends. -/
theorem exists_item_of_read {given result : Given} {arguments : List Bytes}
    (h : read ⟨given, none⟩ arguments = .ok result) :
    ((arguments = [] ∨ arguments = [Utf8.encode "--"]) ∧ result = given) ∨
      ∃ item rest, arguments = item.arguments ++ rest ∧ item.WellFormed ∧
        ¬ given.Has item.name ∧
        read ⟨given.add item, none⟩ rest = .ok result := by
  cases arguments with
  | nil =>
    cases h
    exact .inl ⟨.inl rfl, rfl⟩
  | cons argument rest =>
    by_cases hWord : Word.ofBytes argument = .terminator
    · have hDashes : argument = Utf8.encode "--" :=
        (Word.ofBytes_eq_iff rfl argument).mp hWord
      rw [read_terminator hWord] at h
      cases rest with
      | nil =>
        cases h
        exact .inl ⟨.inr (by rw [hDashes]), rfl⟩
      | cons extra others => cases h
    · right
      rw [read_cons rfl hWord] at h
      obtain ⟨next, hTake, hNext⟩ := bind_eq_ok h
      rcases take_ready hWord hTake with ⟨f, done, hFlag, hAdd, rfl⟩ |
        ⟨s, value, done, hGlued, hAdd, rfl⟩ | ⟨s, hBare, rfl⟩
      · obtain ⟨hNew, rfl⟩ := Given.addFlag_eq_ok_iff.mp hAdd
        refine ⟨.flag f, rest, ?_, trivial, hNew, ?_⟩
        · rw [(Word.ofBytes_eq_iff rfl argument).mp hFlag, Word.long_eq_encode]
          rfl
        · rw [Given.add, Item.values, List.append_nil]
          exact hNext
      · obtain ⟨hNew, text, rfl, rfl⟩ := Given.addValue_eq_ok_iff.mp hAdd
        refine ⟨.glued s text, rest, ?_, trivial, hNew, ?_⟩
        · rw [(Word.ofBytes_eq_iff rfl argument).mp hGlued,
            Word.long_glued_eq_encode]
          rfl
        · rw [Given.add, Item.flags, List.append_nil]
          exact hNext
      · obtain ⟨value, others, done, rfl, hPlain, hAdd, hRead⟩ :=
          exists_value_of_read hNext
        obtain ⟨hNew, text, rfl, rfl⟩ := Given.addValue_eq_ok_iff.mp hAdd
        refine ⟨.spaced s text, others, ?_, Word.isPlain_encode_iff.mp hPlain,
          hNew, ?_⟩
        · rw [(Word.ofBytes_eq_iff rfl argument).mp hBare, Word.long_eq_encode]
          rfl
        · rw [Given.add, Item.flags, List.append_nil]
          exact hRead

/-- What is accepted is a list of items that are new to the reader. -/
theorem exists_items_of_read {given result : Given} {arguments : List Bytes}
    (h : read ⟨given, none⟩ arguments = .ok result) :
    ∃ items, Spells items arguments ∧
      (∀ item ∈ items, ¬ given.Has item.name) := by
  cases exists_item_of_read h with
  | inl hEnd =>
    refine ⟨[], ⟨?_, nofun, List.nodup_nil⟩, nofun⟩
    exact hEnd.1.imp id id
  | inr hMore =>
    obtain ⟨item, rest, hSplit, hForm, hNew, hRest⟩ := hMore
    have hShorter : rest.length < arguments.length := by
      have hItem := item.length_arguments_pos
      rw [hSplit, List.length_append]
      omega
    obtain ⟨items, ⟨hSpelled, hForms, hOnce⟩, hNews⟩ :=
      exists_items_of_read hRest
    refine ⟨item :: items, ⟨?_, ?_, ?_⟩, ?_⟩
    · rw [hSplit, List.flatMap_cons, List.append_assoc]
      exact hSpelled.imp (congrArg _) (congrArg _)
    · exact List.forall_mem_cons.mpr ⟨hForm, hForms⟩
    · rw [List.map_cons, List.nodup_cons]
      refine ⟨?_, hOnce⟩
      intro hMem
      obtain ⟨other, hOther, hSame⟩ := List.mem_map.mp hMem
      exact hNews other hOther (Given.has_add.mpr (.inr hSame))
    · refine List.forall_mem_cons.mpr ⟨hNew, ?_⟩
      intro other hOther hHas
      exact hNews other hOther (Given.has_add.mpr (.inl hHas))
termination_by arguments.length

end Reader

end Preflight
