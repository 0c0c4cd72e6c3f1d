import Preflight.Text.Utf8

/-!
# Plain text

A text for a terminal may hold controls: single characters that the terminal
acts on, and sequences that an escape character opens. What a sequence is,
its first characters say. It is done with one final character, or it is a
control sequence, whose parameters end with a letter, a command, which a
bell ends, or a string, which goes on until the next sequence is opened.

Where nothing acts on controls, the plain text is wanted: the text without
its controls, of which the spacing ones alone stay. The reader below is an
automaton over the characters of the text. An escape character opens a new
sequence wherever it stands, so that a sequence which lacks its end reaches
to the next change of style and no further.

A sequence can be broken off by what may not stand in it, and how that is
taken depends on where the plain text goes. In a text that is kept as a
value a spacing control is shown and ends the sequence, and so does a
character beyond ASCII, which comes out damaged. In a stream such a
character is part of the sequence, and behind a spacing control the text is
shown only up to the next control, where the sequence goes on.

## Main results

* `Manner.escape_not_mem_shown` — a plain text holds no escape character.
* `Manner.shown_of_forall` — a text without controls is its own plain text.
-/

namespace Preflight

namespace Terminal

/-- The character that opens a sequence. -/
def escape : Char := '\x1b'

/-- A text in bold. -/
def bold (text : String) : String := "\x1b[1m" ++ text ++ "\x1b[0m"

/-- The octet that ends a string where characters are octets. -/
def stringEnd : UInt8 := 0x9C

/-- How far a text has come in a sequence. -/
inductive Phase where
  /-- Outside of all sequences. -/
  | ground
  /-- Behind the character that opens a sequence. -/
  | opened
  /-- Before the final character of a sequence. -/
  | beforeFinal
  /-- Among the parameters of a control sequence. -/
  | parameters
  /-- In a command. -/
  | command
  /-- In a string. -/
  | string
  deriving DecidableEq

/-- Where a character leads that is not shown. -/
def Phase.next (phase : Phase) (c : Char) : Phase :=
  if c = escape then .opened
  else if c = '\x18' || c = '\x1a' then .ground
  else match phase with
  | .ground => .ground
  | .opened =>
    if c = '[' then .parameters
    else if c = ']' then .command
    else if c = 'P' || c = 'X' || c = '^' || c = '_' then .string
    else if ' ' ≤ c && c ≤ '/' then .beforeFinal
    else if '0' ≤ c && c ≤ '~' then .ground
    else .opened
  | .beforeFinal => if '0' ≤ c && c ≤ '~' then .ground else .beforeFinal
  | .parameters => if '@' ≤ c && c ≤ '~' then .ground else .parameters
  | .command => if c = '\x07' then .ground else .command
  | .string =>
    if (String.utf8EncodeChar c).contains stringEnd then .ground else .string

/-- The controls that stay: tabs, line feeds, form feeds and carriage returns. -/
def isSpacing (c : Char) : Bool :=
  c = '\t' || c = '\n' || c = '\x0c' || c = '\r'

/-- Whether a character is shown as it is. -/
def Phase.shows (phase : Phase) (c : Char) : Bool :=
  match phase with
  | .ground => isSpacing c || (' ' ≤ c && c ≠ '\x7f')
  | .opened | .beforeFinal | .parameters => isSpacing c
  | .command | .string => false

theorem Phase.shows_escape (phase : Phase) : phase.shows escape = false := by
  cases phase <;> decide

/-- Whether a character is beyond ASCII. -/
def isWide (c : Char) : Bool := 0x80 ≤ c.toNat

/-- How sequences are taken that something breaks off. -/
structure Manner where
  /-- A character beyond ASCII breaks a sequence off and comes out damaged. -/
  damages : Bool
  /-- A sequence goes on at the next control behind what broke it off. -/
  resumes : Bool
  deriving DecidableEq

namespace Manner

/-- The manner of a text that is kept as a value. -/
def text : Manner := ⟨true, false⟩

/-- The manner of a stream. -/
def stream : Manner := ⟨false, true⟩

/--
What a character leaves that is not shown: one beyond ASCII may lose its
first octet only, and each of the others spells nothing by itself.
-/
def remains (manner : Manner) (c : Char) : List Char :=
  if manner.damages && isWide c then
    List.replicate (c.utf8Size - 1) Utf8.replacement
  else []

/-- What a character comes out as. -/
def visible (manner : Manner) (phase : Phase) (c : Char) : List Char :=
  if phase.shows c then [c] else manner.remains c

/-- The phase that is left for later when a character is shown. -/
def kept (manner : Manner) (later : Phase) (c : Char) : Phase :=
  if manner.resumes && !isWide c then later else .ground

/--
The characters that are shown. What is shown is decided in the phase `now`,
and the next character that is not shown is taken in the phase `later`.
-/
def shown (manner : Manner) (now later : Phase) : List Char → List Char
  | [] => []
  | c :: rest =>
    if (manner.visible now c).isEmpty then
      manner.shown (later.next c) (later.next c) rest
    else
      manner.visible now c ++ manner.shown .ground (manner.kept later c) rest

/-- The plain text of a text. -/
def plain (manner : Manner) (text : String) : String :=
  String.ofList (manner.shown .ground .ground text.toList)

theorem escape_not_mem_visible (manner : Manner) (phase : Phase) (c : Char) :
    escape ∉ manner.visible phase c := by
  unfold visible remains
  split
  · next hShows =>
    rw [List.mem_singleton]
    rintro rfl
    simp [phase.shows_escape] at hShows
  · split
    · intro hMem
      exact absurd (List.eq_of_mem_replicate hMem) (by decide)
    · simp

/-- A plain text holds no escape character. -/
theorem escape_not_mem_shown (manner : Manner) (now later : Phase)
    (text : List Char) : escape ∉ manner.shown now later text := by
  induction text generalizing now later with
  | nil => simp [shown]
  | cons c rest ih =>
    rw [shown]
    split
    · exact ih _ _
    · rw [List.mem_append, not_or]
      exact ⟨manner.escape_not_mem_visible now c, ih _ _⟩

theorem kept_ground (manner : Manner) (c : Char) :
    manner.kept .ground c = .ground := by
  simp [kept]

/-- A text without controls is its own plain text. -/
theorem shown_of_forall (manner : Manner) {text : List Char}
    (h : ∀ c ∈ text, Phase.ground.shows c = true) :
    manner.shown .ground .ground text = text := by
  induction text with
  | nil => rfl
  | cons c rest ih =>
    have hRest := ih fun later hMem => h later (List.mem_cons_of_mem _ hMem)
    simp [shown, visible, h c List.mem_cons_self, kept_ground, hRest]

end Manner

end Terminal

end Preflight
