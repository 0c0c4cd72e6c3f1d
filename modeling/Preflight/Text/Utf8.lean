/-!
# Bytes and the text they spell

Paths, arguments and what a program prints are bytes; names and messages
are text. This module holds the two ways between them:

* `Utf8.encode` writes a text as bytes.
* `Utf8.scan` reads bytes as a list of characters with a hole, `none`, for
  every part that spells no character. `Utf8.decodeLossy` fills each hole
  with the replacement character U+FFFD and `Utf8.decode?` refuses a byte
  string that has one.

A part that spells no character is as long as it can be: the bytes `E2 82`
followed by anything but a continuation octet are one hole, because they
could have become a character, and `ED A0 80` are three, because no
character begins with `ED A0`. The reader is an automaton that remembers
only what the next octet of an open character may be, so an octet below
`80` always leaves it in the state it starts from.

## Main results

* `State.feed_ascii` — an ASCII octet closes whatever was open and stands
  for itself.
* `scanFrom_append_ascii` — hence reading restarts behind each ASCII octet.
-/

namespace Preflight

/-- A string of octets, as the file system and other programs use it. -/
abbrev Bytes := List UInt8

namespace Utf8

/-- What the reader knows between two octets. -/
inductive State where
  /-- No character is open. -/
  | ready
  /--
  A character is open: the next octet has to lie between `low` and `high`,
  `more` octets follow it, and `value` holds the bits read so far.
  -/
  | inside (more : Nat) (low high : UInt8) (value : Nat)
  deriving DecidableEq

/-- Reads an octet where no character is open. -/
def lead (octet : UInt8) : List (Option Char) × State :=
  if octet < 0x80 then ([some (Char.ofNat octet.toNat)], .ready)
  else if octet < 0xC2 then ([none], .ready)
  else if octet < 0xE0 then ([], .inside 0 0x80 0xBF (octet.toNat - 0xC0))
  else if octet = 0xE0 then ([], .inside 1 0xA0 0xBF 0)
  else if octet = 0xED then ([], .inside 1 0x80 0x9F 0xD)
  else if octet < 0xF0 then ([], .inside 1 0x80 0xBF (octet.toNat - 0xE0))
  else if octet = 0xF0 then ([], .inside 2 0x90 0xBF 0)
  else if octet < 0xF4 then ([], .inside 2 0x80 0xBF (octet.toNat - 0xF0))
  else if octet = 0xF4 then ([], .inside 2 0x80 0x8F 4)
  else ([none], .ready)

/--
What is left when nothing more comes to an open character: the octets read
so far spell nothing.
-/
def State.flush : State → List (Option Char)
  | .ready => []
  | .inside .. => [none]

/--
Reads one octet. An octet that cannot continue the open character ends it
as a hole and is read again as a first octet.
-/
def State.feed (state : State) (octet : UInt8) :
    List (Option Char) × State :=
  match state with
  | .ready => lead octet
  | .inside more low high value =>
    if low ≤ octet ∧ octet ≤ high then
      match more with
      | 0 => ([some (Char.ofNat (value * 64 + (octet.toNat - 0x80)))], .ready)
      | more + 1 =>
        ([], .inside more 0x80 0xBF (value * 64 + (octet.toNat - 0x80)))
    else (none :: (lead octet).1, (lead octet).2)

/-- The characters and holes of `bytes`, read on from `state`. -/
def scanFrom (state : State) : Bytes → List (Option Char)
  | [] => state.flush
  | octet :: rest =>
    (state.feed octet).1 ++ scanFrom (state.feed octet).2 rest

/-- The characters of a byte string, with `none` for each part that spells none. -/
def scan (bytes : Bytes) : List (Option Char) := scanFrom .ready bytes

/-- The character that stands for bytes which spell none. -/
def replacement : Char := '\uFFFD'

/-- The text of a byte string, with one U+FFFD for each part that spells nothing. -/
def decodeLossy (bytes : Bytes) : String :=
  String.ofList ((scan bytes).map (·.getD replacement))

/-- The text of a byte string, if all of it spells text. -/
def decode? (bytes : Bytes) : Option String :=
  ((scan bytes).mapM id).map String.ofList

/-- The bytes of a text. -/
def encode (text : String) : Bytes :=
  text.toList.flatMap String.utf8EncodeChar

@[simp] theorem encode_empty : encode "" = [] := rfl

@[simp] theorem encode_append (front back : String) :
    encode (front ++ back) = encode front ++ encode back := by
  simp [encode]

/-! ## Reading restarts at ASCII -/

theorem lead_ascii {octet : UInt8} (h : octet < 0x80) :
    lead octet = ([some (Char.ofNat octet.toNat)], .ready) := by
  simp [lead, h]

/-- The range that an open character wants never reaches below `80`. -/
def State.Open : State → Prop
  | .ready => True
  | .inside _ low _ _ => 0x80 ≤ low

theorem open_lead (octet : UInt8) : (lead octet).2.Open := by
  unfold lead
  repeat' split
  all_goals simp [State.Open]

theorem open_feed (state : State) (octet : UInt8) :
    (state.feed octet).2.Open := by
  cases state with
  | ready => exact open_lead octet
  | inside more low high value =>
    unfold State.feed
    by_cases h : low ≤ octet ∧ octet ≤ high
    · cases more <;> simp [h, State.Open]
    · simpa [h] using open_lead octet

/--
An ASCII octet closes whatever was open and stands for itself: it is never
taken for a part of a character that began before it.
-/
theorem State.feed_ascii {state : State} (hOpen : state.Open)
    {octet : UInt8} (h : octet < 0x80) :
    state.feed octet
      = (state.flush ++ [some (Char.ofNat octet.toNat)], .ready) := by
  cases state with
  | ready => simp [State.feed, State.flush, lead_ascii h]
  | inside more low high value =>
    have hLow : ¬ low ≤ octet := by
      intro hle
      exact absurd (UInt8.lt_of_le_of_lt (UInt8.le_trans hOpen hle) h)
        (UInt8.lt_irrefl _)
    simp [State.feed, State.flush, hLow, lead_ascii h]

/-- Reading restarts behind each ASCII octet, whatever stood before it. -/
theorem scanFrom_append_ascii {state : State} (hOpen : state.Open)
    (front : Bytes) {octet : UInt8} (h : octet < 0x80) (rest : Bytes) :
    scanFrom state (front ++ octet :: rest)
      = scanFrom state front ++ some (Char.ofNat octet.toNat) :: scan rest := by
  induction front generalizing state with
  | nil => simp [scanFrom, State.feed_ascii hOpen h, scan]
  | cons first front ih =>
    simp [scanFrom, ih (open_feed state first)]

end Utf8

end Preflight
