import Mathlib.Algebra.Group.Nat.Defs
import Preflight.Text.Utf8

/-!
# Bytes that spell a text

`Utf8.encode` and `Utf8.decode?` are inverse to each other: a byte string
can be read exactly if it is some text written out, and then that text is
what is read. So "these bytes are text" may be said in either way, by a
reader that succeeds or by a text that they are the encoding of.

The octets behind the first of a character carry six bits of its code each.
`continuation code count` is the last `count` of them, and what the reader
knows inside a character is the code divided by a power of 64. Both
directions are an induction on the octets still to come; which first octets
there are is settled in `lead_two`, `lead_three` and `lead_four`.

## Main results

* `scan_encode` — a text in front of further bytes is read character by
  character, and then the bytes behind it.
* `scan_eq_cons_iff` — a character is read first where its octets are first.
* `scan_eq_map_some_iff` — bytes without a hole are the encoding of the
  characters read, and of nothing else.
* `decode?_eq_some_iff` — reading and writing are inverse.
* `decodeLossy_append_ascii`, `decodeLossy_encode` — what is read lossily is
  read in parts between ASCII octets, and text is read as it is.
-/

namespace Preflight

namespace Utf8

/-! ## Continuation octets -/

/-- The octet that carries the low six bits of a number. -/
def tailOctet (bits : Nat) : UInt8 := UInt8.ofNat (bits % 64 + 0x80)

@[simp] theorem toNat_tailOctet (bits : Nat) :
    (tailOctet bits).toNat = bits % 64 + 0x80 := by
  rw [tailOctet, UInt8.toNat_ofNat']
  exact Nat.mod_eq_of_lt (by omega)

/-- The last `count` octets of the character with the code `code`. -/
def continuation (code : Nat) : Nat → Bytes
  | 0 => []
  | count + 1 => tailOctet (code / 64 ^ count) :: continuation code count

private theorem code_div_step (code count : Nat) :
    code / 64 ^ (count + 1) * 64 + code / 64 ^ count % 64
      = code / 64 ^ count := by
  rw [Nat.pow_succ, ← Nat.div_div_eq_div_mul, Nat.mul_comm]
  exact Nat.div_add_mod _ _

/-- An open character takes the octet that carries `bits` next. -/
def State.Wants (low high : UInt8) (bits : Nat) : Prop :=
  low.toNat ≤ bits % 64 + 0x80 ∧ bits % 64 + 0x80 ≤ high.toNat

theorem State.wants_iff {low high : UInt8} {bits : Nat} :
    State.Wants low high bits ↔
      low ≤ tailOctet bits ∧ tailOctet bits ≤ high := by
  rw [UInt8.le_iff_toNat_le, UInt8.le_iff_toNat_le, toNat_tailOctet]
  exact Iff.rfl

theorem State.wants_any (bits : Nat) : State.Wants 0x80 0xBF bits := by
  constructor
  · exact Nat.le_add_left _ _
  · show bits % 64 + 0x80 ≤ 0xBF
    omega

/-- An octet that is wanted carries the six bits that it adds to the code. -/
private theorem State.exists_bits {low high octet : UInt8}
    (hLow : 0x80 ≤ low.toNat) (hHigh : high.toNat ≤ 0xBF)
    (hIn : low ≤ octet ∧ octet ≤ high) (value : Nat) :
    (value * 64 + (octet.toNat - 0x80)) / 64 = value ∧
      tailOctet (value * 64 + (octet.toNat - 0x80)) = octet := by
  rw [UInt8.le_iff_toNat_le, UInt8.le_iff_toNat_le] at hIn
  refine ⟨by omega, UInt8.toNat.inj ?_⟩
  rw [toNat_tailOctet]
  omega

/-- The octets still to come complete an open character. -/
theorem scanFrom_continuation (code : Nat) (more : Nat) {low high : UInt8}
    (hWants : State.Wants low high (code / 64 ^ more)) (rest : Bytes) :
    scanFrom (.inside more low high (code / 64 ^ (more + 1)))
        (continuation code (more + 1) ++ rest)
      = some (Char.ofNat code) :: scan rest := by
  induction more generalizing low high with
  | zero =>
    have hCode := code_div_step code 0
    rw [Nat.pow_zero, Nat.div_one, Nat.zero_add, Nat.pow_one] at hCode
    rw [continuation, List.cons_append, scanFrom, State.feed,
      if_pos (State.wants_iff.mp hWants)]
    simp [continuation, hCode, scan]
  | succ more ih =>
    rw [continuation, List.cons_append, scanFrom, State.feed,
      if_pos (State.wants_iff.mp hWants)]
    simp only [toNat_tailOctet, Nat.add_sub_cancel, code_div_step,
      List.nil_append]
    exact ih (State.wants_any _)

/-- If no hole is read inside a character, its octets are all there. -/
theorem continuation_of_scanFrom {more : Nat} {low high : UInt8}
    {value : Nat} {bytes : Bytes} {c : Char} {others : List (Option Char)}
    (hLow : 0x80 ≤ low.toNat) (hHigh : high.toNat ≤ 0xBF)
    (h : scanFrom (.inside more low high value) bytes = some c :: others) :
    ∃ code rest, bytes = continuation code (more + 1) ++ rest ∧
      code / 64 ^ (more + 1) = value ∧
      State.Wants low high (code / 64 ^ more) ∧
      c = Char.ofNat code ∧ scan rest = others := by
  induction more generalizing low high value bytes with
  | zero =>
    cases bytes with
    | nil => cases h
    | cons octet rest =>
      rw [scanFrom, State.feed] at h
      by_cases hIn : low ≤ octet ∧ octet ≤ high
      · obtain ⟨hValue, hOctet⟩ := State.exists_bits hLow hHigh hIn value
        rw [if_pos hIn] at h
        obtain ⟨hChar, hRest⟩ := List.cons.inj h
        refine ⟨value * 64 + (octet.toNat - 0x80), rest, ?_, ?_, ?_,
          (Option.some.inj hChar).symm, hRest⟩
        · simp [continuation, hOctet]
        · rw [Nat.pow_one, hValue]
        · rw [State.wants_iff, Nat.pow_zero, Nat.div_one, hOctet]
          exact hIn
      · rw [if_neg hIn] at h
        cases h
  | succ more ih =>
    cases bytes with
    | nil => cases h
    | cons octet tail =>
      rw [scanFrom, State.feed] at h
      by_cases hIn : low ≤ octet ∧ octet ≤ high
      · obtain ⟨hValue, hOctet⟩ := State.exists_bits hLow hHigh hIn value
        rw [if_pos hIn] at h
        obtain ⟨code, rest, rfl, hCode, -, hChar, hRest⟩ :=
          ih (by decide) (by decide) h
        refine ⟨code, rest, ?_, ?_, ?_, hChar, hRest⟩
        · rw [← hOctet, ← hCode]
          rfl
        · rw [Nat.pow_succ, ← Nat.div_div_eq_div_mul, hCode, hValue]
        · rw [State.wants_iff, hCode, hOctet]
          exact hIn
      · rw [if_neg hIn] at h
        cases h

/-! ## Encoded characters by their length -/

private theorem toNat_lt (c : Char) : c.toNat < 0x110000 := by
  rcases c.valid with h | h
  · exact Nat.lt_trans h (by decide)
  · exact h.2

private theorem toNat_ofNat {code : Nat} (h : code.isValidChar) :
    (Char.ofNat code).toNat = code := by
  rw [Char.ofNat, dif_pos h]
  exact UInt32.toNat_ofNatLT

theorem encodeChar_one {c : Char} (h : c.toNat < 0x80) :
    String.utf8EncodeChar c = [UInt8.ofNat c.toNat] := by
  have hVal : c.val.toNat = c.toNat := rfl
  simp only [String.utf8EncodeChar, hVal]
  rw [if_pos (by omega)]

theorem encodeChar_two {c : Char} (hLow : 0x80 ≤ c.toNat)
    (hHigh : c.toNat < 0x800) :
    String.utf8EncodeChar c
      = UInt8.ofNat (c.toNat / 64 + 0xC0) :: continuation c.toNat 1 := by
  have hVal : c.val.toNat = c.toNat := rfl
  simp only [String.utf8EncodeChar, continuation, tailOctet, hVal]
  rw [if_neg (by omega), if_pos (by omega), Nat.mod_eq_of_lt (by omega),
    Nat.pow_zero, Nat.div_one]

theorem encodeChar_three {c : Char} (hLow : 0x800 ≤ c.toNat)
    (hHigh : c.toNat < 0x10000) :
    String.utf8EncodeChar c
      = UInt8.ofNat (c.toNat / 64 ^ 2 + 0xE0) :: continuation c.toNat 2 := by
  have hVal : c.val.toNat = c.toNat := rfl
  simp only [String.utf8EncodeChar, continuation, tailOctet, hVal]
  rw [if_neg (by omega), if_neg (by omega), if_pos (by omega),
    Nat.mod_eq_of_lt (by omega)]
  simp

theorem encodeChar_four {c : Char} (hLow : 0x10000 ≤ c.toNat) :
    String.utf8EncodeChar c
      = UInt8.ofNat (c.toNat / 64 ^ 3 + 0xF0) :: continuation c.toNat 3 := by
  have hVal : c.val.toNat = c.toNat := rfl
  have hMax := toNat_lt c
  simp only [String.utf8EncodeChar, continuation, tailOctet, hVal]
  rw [if_neg (by omega), if_neg (by omega), if_neg (by omega),
    Nat.mod_eq_of_lt (by omega)]
  simp

/-! ## First octets -/

/-- The first octet of a character of two, by the bits it carries. -/
theorem lead_two : ∀ bits < 32, 2 ≤ bits →
    lead (UInt8.ofNat (bits + 0xC0)) = ([], .inside 0 0x80 0xBF bits) := by
  decide

/-- The first octet of a character of three, by the bits it carries. -/
theorem lead_three : ∀ bits < 16,
    lead (UInt8.ofNat (bits + 0xE0))
      = ([], .inside 1 (if bits = 0 then 0xA0 else 0x80)
          (if bits = 0xD then 0x9F else 0xBF) bits) := by
  decide

/-- The first octet of a character of four, by the bits it carries. -/
theorem lead_four : ∀ bits < 5,
    lead (UInt8.ofNat (bits + 0xF0))
      = ([], .inside 2 (if bits = 0 then 0x90 else 0x80)
          (if bits = 4 then 0x8F else 0xBF) bits) := by
  decide

/-- No octet opens a character but those of the three lemmas above. -/
private theorem lead_cases (octet : UInt8) :
    (lead octet).2 = .ready ∨
      (∃ bits, 2 ≤ bits ∧ bits < 32 ∧ octet = UInt8.ofNat (bits + 0xC0)) ∨
      (∃ bits < 16, octet = UInt8.ofNat (bits + 0xE0)) ∨
      (∃ bits < 5, octet = UInt8.ofNat (bits + 0xF0)) := by
  have hOctet : ∀ base ≤ octet.toNat,
      octet = UInt8.ofNat (octet.toNat - base + base) := by
    intro base hBase
    rw [Nat.sub_add_cancel hBase, UInt8.ofNat_toNat]
  by_cases hLow : octet.toNat < 0xC2
  · left
    unfold lead
    by_cases hAscii : octet < 0x80
    · rw [if_pos hAscii]
    · rw [if_neg hAscii, if_pos (UInt8.lt_iff_toNat_lt.mpr hLow)]
  by_cases hTwo : octet.toNat < 0xE0
  · exact .inr (.inl ⟨octet.toNat - 0xC0, by omega, by omega,
      hOctet 0xC0 (by omega)⟩)
  by_cases hThree : octet.toNat < 0xF0
  · exact .inr (.inr (.inl ⟨octet.toNat - 0xE0, by omega,
      hOctet 0xE0 (by omega)⟩))
  by_cases hFour : octet.toNat < 0xF5
  · exact .inr (.inr (.inr ⟨octet.toNat - 0xF0, by omega,
      hOctet 0xF0 (by omega)⟩))
  · left
    have hAbove : ∀ other : UInt8, other.toNat ≤ 0xF4 →
        ¬ octet < other ∧ octet ≠ other := by
      intro other hOther
      rw [UInt8.lt_iff_toNat_lt, ne_eq, ← UInt8.toNat_inj]
      omega
    simp [lead, hAbove]

/-- A first octet stands for itself, for nothing, or opens a character. -/
theorem lead_shape (octet : UInt8) :
    octet < 0x80 ∨ lead octet = ([none], .ready) ∨
      ∃ more low high value,
        lead octet = ([], .inside more low high value) := by
  by_cases hAscii : octet < 0x80
  · exact .inl hAscii
  · right
    rw [lead, if_neg hAscii]
    repeat' split
    all_goals simp

/-- Every character that is not ASCII is opened by its first octet. -/
theorem lead_encodeChar {c : Char} (h : 0x80 ≤ c.toNat) :
    ∃ octet more low high,
      String.utf8EncodeChar c = octet :: continuation c.toNat (more + 1) ∧
      lead octet = ([], .inside more low high (c.toNat / 64 ^ (more + 1))) ∧
      State.Wants low high (c.toNat / 64 ^ more) := by
  have hMax := toNat_lt c
  by_cases hTwo : c.toNat < 0x800
  · exact ⟨_, 0, _, _, encodeChar_two h hTwo,
      lead_two _ (by omega) (by omega), State.wants_any _⟩
  by_cases hThree : c.toNat < 0x10000
  · refine ⟨_, 1, _, _, encodeChar_three (Nat.not_lt.mp hTwo) hThree,
      lead_three _ (by omega), ?_⟩
    -- The bound behind `ED` keeps the surrogates out.
    have hValid : c.toNat < 0xD800 ∨ 0xDFFF < c.toNat ∧ c.toNat < 0x110000 :=
      c.valid
    constructor <;> split <;> simp <;> omega
  · refine ⟨_, 2, _, _, encodeChar_four (Nat.not_lt.mp hThree),
      lead_four _ (by omega), ?_⟩
    constructor <;> split <;> simp <;> omega

/-- What a first octet opens is a character, whichever wanted octets follow. -/
theorem encodeChar_of_lead {octet low high : UInt8} {more value : Nat}
    (h : lead octet = ([], .inside more low high value)) :
    0x80 ≤ low.toNat ∧ high.toNat ≤ 0xBF ∧
      ∀ code, code / 64 ^ (more + 1) = value →
        State.Wants low high (code / 64 ^ more) →
        String.utf8EncodeChar (Char.ofNat code)
          = octet :: continuation code (more + 1) := by
  rcases lead_cases octet with hReady | ⟨bits, hMin, hMax, rfl⟩ |
    ⟨bits, hMax, rfl⟩ | ⟨bits, hMax, rfl⟩
  · simp [h] at hReady
  · rw [lead_two bits hMax hMin] at h
    cases h
    refine ⟨by decide, by decide, fun code hCode _ => ?_⟩
    have hNat : (Char.ofNat code).toNat = code := toNat_ofNat (.inl (by omega))
    rw [encodeChar_two (by omega) (by omega), hNat, ← hCode, Nat.pow_one]
  · rw [lead_three bits hMax] at h
    cases h
    refine ⟨by split <;> decide, by split <;> decide,
      fun code hCode hWants => ?_⟩
    obtain ⟨hLow, hHigh⟩ := hWants
    have hBounds : 0x800 ≤ code ∧ (code < 0xD800 ∨ 0xDFFF < code)
        ∧ code < 0x10000 := by
      split at hLow <;> split at hHigh <;> simp at hLow hHigh hCode <;> omega
    have hNat : (Char.ofNat code).toNat = code :=
      toNat_ofNat (hBounds.2.1.imp id fun hAbove => ⟨hAbove, by omega⟩)
    rw [encodeChar_three (by omega) (by omega), hNat, ← hCode]
  · rw [lead_four bits hMax] at h
    cases h
    refine ⟨by split <;> decide, by split <;> decide,
      fun code hCode hWants => ?_⟩
    obtain ⟨hLow, hHigh⟩ := hWants
    have hBounds : 0x10000 ≤ code ∧ code < 0x110000 := by
      split at hLow <;> split at hHigh <;> simp at hLow hHigh hCode <;> omega
    have hNat : (Char.ofNat code).toNat = code :=
      toNat_ofNat (.inr ⟨by omega, hBounds.2⟩)
    rw [encodeChar_four (by omega), hNat, ← hCode]

/-! ## Reading what was written -/

theorem scan_encodeChar (c : Char) (rest : Bytes) :
    scan (String.utf8EncodeChar c ++ rest) = some c :: scan rest := by
  by_cases hAscii : c.toNat < 0x80
  · have hNat : (UInt8.ofNat c.toNat).toNat = c.toNat := by
      rw [UInt8.toNat_ofNat']
      exact Nat.mod_eq_of_lt (by omega)
    have hLt : UInt8.ofNat c.toNat < 0x80 := by
      rw [UInt8.lt_iff_toNat_lt, hNat]
      exact hAscii
    simp [encodeChar_one hAscii, scan, scanFrom, State.feed, lead_ascii hLt,
      hNat]
  · obtain ⟨octet, more, low, high, hEncode, hLead, hWants⟩ :=
      lead_encodeChar (Nat.not_lt.mp hAscii)
    have hScan := scanFrom_continuation c.toNat more hWants rest
    rw [Char.ofNat_toNat] at hScan
    rw [hEncode, List.cons_append, scan, scanFrom, State.feed, hLead]
    exact hScan

/-- A text in front of further bytes is read first, and then the bytes. -/
theorem scan_encode (text : String) (rest : Bytes) :
    scan (encode text ++ rest) = text.toList.map some ++ scan rest := by
  unfold encode
  induction text.toList with
  | nil => rfl
  | cons c others ih =>
    rw [List.flatMap_cons, List.append_assoc, scan_encodeChar, ih]
    rfl

/-- A character is read first where its octets are first. -/
theorem scan_eq_cons_iff {bytes : Bytes} {c : Char}
    {others : List (Option Char)} :
    scan bytes = some c :: others ↔
      ∃ rest, bytes = String.utf8EncodeChar c ++ rest ∧
        scan rest = others := by
  constructor
  · intro h
    cases bytes with
    | nil => cases h
    | cons octet tail =>
      rw [scan, scanFrom, State.feed] at h
      rcases lead_shape octet with hAscii | hHole |
        ⟨more, low, high, value, hLead⟩
      · rw [lead_ascii hAscii] at h
        obtain ⟨hChar, hRest⟩ := List.cons.inj h
        rw [UInt8.lt_iff_toNat_lt] at hAscii
        have hNat : (Char.ofNat octet.toNat).toNat = octet.toNat :=
          toNat_ofNat (.inl (Nat.lt_trans hAscii (by decide)))
        refine ⟨tail, ?_, hRest⟩
        rw [← Option.some.inj hChar, encodeChar_one (by rw [hNat]; exact hAscii),
          hNat, UInt8.ofNat_toNat]
        rfl
      · rw [hHole] at h
        cases h
      · rw [hLead] at h
        obtain ⟨hLow, hHigh, hEncode⟩ := encodeChar_of_lead hLead
        obtain ⟨code, rest, rfl, hCode, hWants, rfl, hRest⟩ :=
          continuation_of_scanFrom hLow hHigh h
        refine ⟨rest, ?_, hRest⟩
        rw [hEncode code hCode hWants, List.cons_append]
  · rintro ⟨rest, rfl, rfl⟩
    exact scan_encodeChar c rest

/-- An open character is a character or a hole in the end. -/
private theorem scanFrom_inside_ne_nil (more : Nat) (low high : UInt8)
    (value : Nat) (bytes : Bytes) :
    scanFrom (.inside more low high value) bytes ≠ [] := by
  induction bytes generalizing more low high value with
  | nil => exact List.cons_ne_nil _ _
  | cons octet rest ih =>
    rw [scanFrom, State.feed.eq_def]
    by_cases hIn : low ≤ octet ∧ octet ≤ high
    · simp only [if_pos hIn]
      cases more with
      | zero => exact List.cons_ne_nil _ _
      | succ more => exact ih more _ _ _
    · simp only [if_neg hIn]
      exact List.cons_ne_nil _ _

theorem scan_eq_nil_iff {bytes : Bytes} : scan bytes = [] ↔ bytes = [] := by
  refine ⟨?_, fun h => h ▸ rfl⟩
  intro h
  cases bytes with
  | nil => rfl
  | cons octet tail =>
    rw [scan, scanFrom, State.feed] at h
    rcases lead_shape octet with hAscii | hHole |
      ⟨more, low, high, value, hLead⟩
    · rw [lead_ascii hAscii] at h
      cases h
    · rw [hHole] at h
      cases h
    · rw [hLead] at h
      exact absurd h (scanFrom_inside_ne_nil more low high value tail)

/-- Bytes that are read without a hole are the encoding of what is read. -/
theorem eq_flatMap_of_scan {bytes : Bytes} {chars : List Char}
    (h : scan bytes = chars.map some) :
    bytes = chars.flatMap String.utf8EncodeChar := by
  induction chars generalizing bytes with
  | nil => exact scan_eq_nil_iff.mp h
  | cons c others ih =>
    obtain ⟨rest, rfl, hRest⟩ := scan_eq_cons_iff.mp h
    rw [List.flatMap_cons, ih hRest]

theorem scan_eq_map_some_iff {bytes : Bytes} {chars : List Char} :
    scan bytes = chars.map some ↔
      bytes = chars.flatMap String.utf8EncodeChar := by
  refine ⟨eq_flatMap_of_scan, ?_⟩
  rintro rfl
  have hScan := scan_encode (String.ofList chars) []
  simpa [encode, scan, scanFrom, State.flush] using hScan

private theorem mapM_id_eq_some_iff {α : Type} {items : List (Option α)}
    {values : List α} :
    items.mapM id = some values ↔ items = values.map some := by
  induction items generalizing values with
  | nil => cases values <;> simp
  | cons item items ih =>
    cases item with
    | none => cases values <;> simp
    | some value =>
      simp only [List.mapM_cons, id_eq, Option.bind_eq_bind, Option.bind_some,
        Option.bind_eq_some_iff, ih, Option.pure_def, Option.some.injEq]
      constructor
      · rintro ⟨others, rfl, rfl⟩
        rfl
      · intro h
        obtain ⟨first, others, rfl, hFirst, hOthers⟩ :=
          List.map_eq_cons_iff.mp h.symm
        exact ⟨others, hOthers.symm, by rw [Option.some.inj hFirst]⟩

/-- Reading and writing are inverse to each other. -/
theorem decode?_eq_some_iff {bytes : Bytes} {text : String} :
    decode? bytes = some text ↔ bytes = encode text := by
  rw [decode?, Option.map_eq_some_iff]
  constructor
  · rintro ⟨chars, hChars, rfl⟩
    rw [mapM_id_eq_some_iff, scan_eq_map_some_iff] at hChars
    simpa [encode] using hChars
  · intro h
    refine ⟨text.toList, ?_, String.ofList_toList⟩
    rw [mapM_id_eq_some_iff, scan_eq_map_some_iff]
    exact h

@[simp] theorem decode?_encode (text : String) :
    decode? (encode text) = some text :=
  decode?_eq_some_iff.mpr rfl

/-- Bytes that some text is encoded as. -/
def IsText (bytes : Bytes) : Prop := ∃ text, bytes = encode text

@[simp] theorem isText_encode (text : String) : IsText (encode text) :=
  ⟨text, rfl⟩

theorem decode?_eq_none_iff {bytes : Bytes} :
    decode? bytes = none ↔ ¬ IsText bytes := by
  rw [Option.eq_none_iff_forall_ne_some, IsText, not_exists]
  exact forall_congr' fun _ => not_congr decode?_eq_some_iff

theorem encode_injective : Function.Injective encode := by
  intro front back h
  have hRead := decode?_encode front
  rw [h, decode?_encode] at hRead
  exact (Option.some.inj hRead).symm

/-! ## Text with holes filled -/

/-- What is read lossily restarts behind each ASCII octet. -/
theorem decodeLossy_append_ascii (front : Bytes) {octet : UInt8}
    (h : octet < 0x80) (back : Bytes) :
    decodeLossy (front ++ octet :: back)
      = decodeLossy front ++ String.singleton (Char.ofNat octet.toNat)
        ++ decodeLossy back := by
  have hReady : State.ready.Open := trivial
  have hScan : scan (front ++ octet :: back)
      = scan front ++ some (Char.ofNat octet.toNat) :: scan back :=
    scanFrom_append_ascii hReady front h back
  rw [← String.toList_inj, decodeLossy, hScan]
  simp [decodeLossy]

/-- Text that was written is read without a hole, and so as it is. -/
@[simp] theorem decodeLossy_encode (text : String) :
    decodeLossy (encode text) = text := by
  have hScan : scan (encode text) = text.toList.map some :=
    scan_eq_map_some_iff.mpr rfl
  rw [decodeLossy, hScan, List.map_map]
  simp [Function.comp_def]

/-! ## ASCII -/

/-- An ASCII octet is written for the character it stands for, and no other. -/
theorem mem_toList_of_mem_encode {octet : UInt8} {text : String}
    (hAscii : octet < 0x80) (h : octet ∈ encode text) :
    Char.ofNat octet.toNat ∈ text.toList := by
  have hReady : State.ready.Open := trivial
  have hScan : scan (encode text) = text.toList.map some :=
    scan_eq_map_some_iff.mpr rfl
  obtain ⟨front, back, hSplit⟩ := List.append_of_mem h
  rw [hSplit, scan, scanFrom_append_ascii hReady front hAscii] at hScan
  have hMem : some (Char.ofNat octet.toNat) ∈ text.toList.map some := by
    rw [← hScan]
    exact List.mem_append_right _ List.mem_cons_self
  obtain ⟨c, hChar, hSame⟩ := List.mem_map.mp hMem
  rw [← Option.some.inj hSame]
  exact hChar

end Utf8

end Preflight
