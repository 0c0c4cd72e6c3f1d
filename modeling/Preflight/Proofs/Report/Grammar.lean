import Preflight.Report.Json

/-!
# What a JSON text says

The grammar of JSON, as a relation between a text and a value. It is about
the front of a text: `Reads phrase text rest` says that `phrase` is spelled
by what stands in `text` before `rest`. So nothing has to be cut out of a
text to speak of a part of it, and a rule of the grammar is one constructor,
which hands the rest of one part to the next.

The values, the lists of elements and the lists of members go through one
another. They are one relation over `Phrase`, which says of each phrase what
it is. A list takes the bracket that closes it along.

A number is the only value that does not show where it ends. It ends where a
character follows that no number holds, and `Ends` asks for that.

## Main results

* `Reads.unique` — a text says one thing: no two values are spelled alike.
* `readsString_escape` — what is escaped reads as what it was.
-/

namespace Preflight

namespace Json

/-- A JSON value. A number stands as it is spelled. -/
inductive Value where
  | null
  | bool (b : Bool)
  | number (numeral : List Char)
  | string (text : String)
  | array (elements : List Value)
  | object (members : List (String × Value))

/-! ## White space -/

/-- Whether a character may stand anywhere between the parts of a text. -/
def IsSpace (c : Char) : Prop :=
  c = ' ' ∨ c = '\t' ∨ c = '\n' ∨ c = '\r'

/-- Nothing but white space stands before the rest. -/
inductive Space : List Char → List Char → Prop
  | none {rest : List Char} : Space rest rest
  | more {c : Char} {text rest : List Char} (hSpace : IsSpace c)
      (h : Space text rest) : Space (c :: text) rest

/-- White space is left behind as a whole. -/
theorem Space.unique {text : List Char} {c d : Char} {rest other : List Char}
    (h : Space text (c :: rest)) (h' : Space text (d :: other))
    (hc : ¬ IsSpace c) (hd : ¬ IsSpace d) : c = d ∧ rest = other := by
  induction text with
  | nil => cases h
  | cons first tail ih =>
    cases h with
    | none =>
      cases h' with
      | none => exact ⟨rfl, rfl⟩
      | more hSpace _ => exact absurd hSpace hc
    | more hSpace hTail =>
      cases h' with
      | none => exact absurd hSpace hd
      | more _ hTail' => exact ih hTail hTail'

/-! ## Numbers -/

/-- One digit or more. -/
def IsDigits (digits : List Char) : Prop :=
  digits ≠ [] ∧ ∀ c ∈ digits, c.isDigit = true

/-- The part of a number before the point: no digit stands behind a leading zero. -/
def IsInteger (text : List Char) : Prop :=
  text = ['0'] ∨ IsDigits text ∧ text.head? ≠ some '0'

/-- The part of a number behind the point, if there is one. -/
def IsFraction (text : List Char) : Prop :=
  text = [] ∨ ∃ digits, text = '.' :: digits ∧ IsDigits digits

/-- The power of ten, if there is one. -/
def IsExponent (text : List Char) : Prop :=
  text = [] ∨ ∃ e sign digits, text = e :: (sign ++ digits) ∧
    (e = 'e' ∨ e = 'E') ∧ (sign = [] ∨ sign = ['-'] ∨ sign = ['+']) ∧
    IsDigits digits

/-- How a number is spelled. -/
def IsNumeral (text : List Char) : Prop :=
  ∃ sign integer fraction exponent,
    text = sign ++ (integer ++ (fraction ++ exponent)) ∧
    (sign = [] ∨ sign = ['-']) ∧ IsInteger integer ∧ IsFraction fraction ∧
    IsExponent exponent

/-- Whether a character is found in numbers. -/
def inNumerals (c : Char) : Bool :=
  c.isDigit || c == '-' || c == '+' || c == '.' || c == 'e' || c == 'E'

/-- No number goes on in `rest`. -/
def Ends (rest : List Char) : Prop :=
  ∀ c tail, rest = c :: tail → inNumerals c = false

theorem inNumerals_of_isDigit {c : Char} (h : c.isDigit = true) :
    inNumerals c = true := by
  simp [inNumerals, h]

theorem IsInteger.digits {text : List Char} (h : IsInteger text) :
    IsDigits text := by
  cases h with
  | inl hZero =>
    rw [hZero]
    refine ⟨List.cons_ne_nil _ _, ?_⟩
    intro c hMem
    rw [List.mem_singleton.mp hMem]
    rfl
  | inr hDigits => exact hDigits.1

theorem IsNumeral.inNumerals {text : List Char} (h : IsNumeral text) :
    ∀ c ∈ text, inNumerals c = true := by
  have hDigits : ∀ {digits}, IsDigits digits →
      ∀ c ∈ digits, Json.inNumerals c = true := by
    intro digits hAll c hMem
    exact inNumerals_of_isDigit (hAll.2 c hMem)
  obtain ⟨sign, integer, fraction, exponent, rfl, hSign, hInteger, hFraction,
    hExponent⟩ := h
  intro c hMem
  rw [List.mem_append, List.mem_append, List.mem_append] at hMem
  rcases hMem with hMem | hMem | hMem | hMem
  · rcases hSign with rfl | rfl
    · cases hMem
    · rw [List.mem_singleton.mp hMem]
      decide
  · exact hDigits hInteger.digits c hMem
  · rcases hFraction with rfl | ⟨digits, rfl, hAll⟩
    · cases hMem
    · rcases List.mem_cons.mp hMem with rfl | hMem
      · decide
      · exact hDigits hAll c hMem
  · rcases hExponent with rfl | ⟨e, sign, digits, rfl, hE, hSign, hAll⟩
    · cases hMem
    · rcases List.mem_cons.mp hMem with rfl | hMem
      · rcases hE with rfl | rfl <;> decide
      · rcases List.mem_append.mp hMem with hMem | hMem
        · rcases hSign with rfl | rfl | rfl
          · cases hMem
          · rw [List.mem_singleton.mp hMem]
            decide
          · rw [List.mem_singleton.mp hMem]
            decide
        · exact hDigits hAll c hMem

/-- A number begins with a digit or a minus sign. -/
theorem IsNumeral.opens {numeral : List Char} (h : IsNumeral numeral) :
    ∃ c tail, numeral = c :: tail ∧ (c = '-' ∨ c.isDigit = true) := by
  obtain ⟨sign, integer, fraction, exponent, rfl, hSign, hInteger, -, -⟩ := h
  obtain ⟨hSome, hAll⟩ := hInteger.digits
  rcases hSign with rfl | rfl
  · cases integer with
    | nil => exact absurd rfl hSome
    | cons c tail => exact ⟨c, _, rfl, .inr (hAll c List.mem_cons_self)⟩
  · exact ⟨'-', _, rfl, .inl rfl⟩

/-- Two numbers at the front of a text, each with its end, are one. -/
theorem IsNumeral.unique {numeral other rest otherRest : List Char}
    (h : IsNumeral numeral) (h' : IsNumeral other)
    (hText : numeral ++ rest = other ++ otherRest) (hEnds : Ends rest)
    (hEnds' : Ends otherRest) : numeral = other ∧ rest = otherRest := by
  have hTake : ∀ {front back : List Char}, IsNumeral front → Ends back →
      (front ++ back).takeWhile Json.inNumerals = front := by
    intro front back hFront hBack
    have hStop : back.takeWhile Json.inNumerals = [] := by
      cases back with
      | nil => rfl
      | cons c tail => simp [hBack c tail rfl]
    rw [List.takeWhile_append_of_pos hFront.inNumerals, hStop,
      List.append_nil]
  have hSame : numeral = other := by
    rw [← hTake h hEnds, hText, hTake h' hEnds']
  rw [hSame] at hText
  exact ⟨hSame, List.append_cancel_left hText⟩

/-! ## Strings -/

/-- The value of a hexadecimal digit. -/
def hexDigit? (c : Char) : Option Nat :=
  if '0' ≤ c ∧ c ≤ '9' then some (c.toNat - 0x30)
  else if 'a' ≤ c ∧ c ≤ 'f' then some (c.toNat - 0x61 + 10)
  else if 'A' ≤ c ∧ c ≤ 'F' then some (c.toNat - 0x41 + 10)
  else none

/-- The value of four hexadecimal digits. -/
def codeUnit? (a b c d : Char) : Option Nat := do
  return ((← hexDigit? a) * 16 + (← hexDigit? b)) * 256
    + ((← hexDigit? c) * 16 + (← hexDigit? d))

/-- Characters that stand for another one behind a reverse solidus. -/
def shortEscapes : List (Char × Char) :=
  [('"', '"'), ('\\', '\\'), ('/', '/'), ('b', '\x08'), ('f', '\x0c'),
   ('n', '\n'), ('r', '\r'), ('t', '\t')]

/-- A character of a string is spelled before the rest. -/
inductive ReadsChar : Char → List Char → List Char → Prop
  | plain {c : Char} {rest : List Char} (hCode : 0x20 ≤ c.toNat)
      (hQuote : c ≠ '"') (hSolidus : c ≠ '\\') : ReadsChar c (c :: rest) rest
  | short {e c : Char} {rest : List Char} (h : (e, c) ∈ shortEscapes) :
      ReadsChar c ('\\' :: e :: rest) rest
  | code {c d₁ d₂ d₃ d₄ : Char} {rest : List Char}
      (h : codeUnit? d₁ d₂ d₃ d₄ = some c.toNat) :
      ReadsChar c ('\\' :: 'u' :: d₁ :: d₂ :: d₃ :: d₄ :: rest) rest
  /-- A character beyond the first plane, by two surrogates. -/
  | pair {c d₁ d₂ d₃ d₄ e₁ e₂ e₃ e₄ : Char} {high low : Nat}
      {rest : List Char}
      (hHigh : codeUnit? d₁ d₂ d₃ d₄ = some (0xD800 + high))
      (hLow : codeUnit? e₁ e₂ e₃ e₄ = some (0xDC00 + low))
      (hHighBits : high < 0x400) (hLowBits : low < 0x400)
      (hCode : c.toNat = 0x10000 + high * 0x400 + low) :
      ReadsChar c ('\\' :: 'u' :: d₁ :: d₂ :: d₃ :: d₄
        :: '\\' :: 'u' :: e₁ :: e₂ :: e₃ :: e₄ :: rest) rest

/-- The characters of a string, and the mark that closes it, stand before the rest. -/
inductive ReadsString : List Char → List Char → List Char → Prop
  | close {rest : List Char} : ReadsString [] ('"' :: rest) rest
  | char {c : Char} {chars text next rest : List Char}
      (hChar : ReadsChar c text next) (h : ReadsString chars next rest) :
      ReadsString (c :: chars) text rest

private theorem shortEscapes_unique : ∀ first ∈ shortEscapes,
    ∀ second ∈ shortEscapes, first.1 = second.1 → first.2 = second.2 := by
  decide

private theorem shortEscapes_ne_u : ∀ first ∈ shortEscapes, first.1 ≠ 'u' := by
  decide

/-- A surrogate is no character. -/
private theorem toNat_ne_surrogate (c : Char) {high : Nat}
    (h : high < 0x400) : c.toNat ≠ 0xD800 + high := by
  have hValid : c.toNat < 0xD800 ∨ 0xDFFF < c.toNat ∧ c.toNat < 0x110000 :=
    c.valid
  omega

theorem ReadsChar.unique {c d : Char} {text rest other : List Char}
    (h : ReadsChar c text rest) (h' : ReadsChar d text other) :
    c = d ∧ rest = other := by
  cases h with
  | plain _ hQuote hSolidus =>
    cases h' with
    | plain => exact ⟨rfl, rfl⟩
    | short => exact absurd rfl hSolidus
    | code => exact absurd rfl hSolidus
    | pair => exact absurd rfl hSolidus
  | short hPair =>
    cases h' with
    | plain _ _ hSolidus => exact absurd rfl hSolidus
    | short hPair' =>
      exact ⟨shortEscapes_unique _ hPair _ hPair' rfl, rfl⟩
    | code => exact absurd rfl (shortEscapes_ne_u _ hPair)
    | pair => exact absurd rfl (shortEscapes_ne_u _ hPair)
  | code hUnit =>
    cases h' with
    | plain _ _ hSolidus => exact absurd rfl hSolidus
    | short hPair => exact absurd rfl (shortEscapes_ne_u _ hPair)
    | code hUnit' =>
      rw [hUnit] at hUnit'
      exact ⟨Char.toNat_inj.mp (Option.some.inj hUnit'), rfl⟩
    | pair hHigh _ hBits =>
      rw [hUnit] at hHigh
      exact absurd (Option.some.inj hHigh) (toNat_ne_surrogate c hBits)
  | pair hHigh hLow hBits _ hCode =>
    cases h' with
    | plain _ _ hSolidus => exact absurd rfl hSolidus
    | short hPair => exact absurd rfl (shortEscapes_ne_u _ hPair)
    | code hUnit =>
      rw [hUnit] at hHigh
      exact absurd (Option.some.inj hHigh) (toNat_ne_surrogate d hBits)
    | pair hHigh' hLow' _ _ hCode' =>
      rw [hHigh] at hHigh'
      rw [hLow] at hLow'
      have hSame := Option.some.inj hHigh'
      have hSame' := Option.some.inj hLow'
      exact ⟨Char.toNat_inj.mp (by omega), rfl⟩

/-- No character of a string begins with the mark that closes it. -/
theorem ReadsChar.not_close {c : Char} {text rest : List Char}
    (h : ReadsChar c ('"' :: text) rest) : False := by
  cases h with
  | plain _ hQuote _ => exact hQuote rfl

theorem ReadsString.unique {chars others text rest otherRest : List Char}
    (h : ReadsString chars text rest) (h' : ReadsString others text otherRest) :
    chars = others ∧ rest = otherRest := by
  induction h generalizing others with
  | close =>
    cases h' with
    | close => exact ⟨rfl, rfl⟩
    | char hChar _ => exact hChar.not_close.elim
  | char hChar _ ih =>
    cases h' with
    | close => exact hChar.not_close.elim
    | char hChar' hString' =>
      obtain ⟨rfl, rfl⟩ := hChar.unique hChar'
      obtain ⟨rfl, rfl⟩ := ih hString'
      exact ⟨rfl, rfl⟩

/-! ## Values -/

/-- What is spelled by a part of a text. -/
inductive Phrase where
  | value (v : Value)
  /-- The elements of an array, one at least. -/
  | elements (vs : List Value)
  /-- The members of an object, one at least. -/
  | members (ms : List (String × Value))

/--
The phrase is spelled by what stands in the text before the rest, with the
closing bracket if it is a list.
-/
inductive Reads : Phrase → List Char → List Char → Prop
  | null {rest : List Char} :
      Reads (.value .null) ('n' :: 'u' :: 'l' :: 'l' :: rest) rest
  | true {rest : List Char} :
      Reads (.value (.bool true)) ('t' :: 'r' :: 'u' :: 'e' :: rest) rest
  | false {rest : List Char} :
      Reads (.value (.bool false))
        ('f' :: 'a' :: 'l' :: 's' :: 'e' :: rest) rest
  | number {numeral text rest : List Char} (hNumeral : IsNumeral numeral)
      (hText : text = numeral ++ rest) :
      Reads (.value (.number numeral)) text rest
  | string {chars text rest : List Char} (h : ReadsString chars text rest) :
      Reads (.value (.string (.ofList chars))) ('"' :: text) rest
  | emptyArray {text rest : List Char} (h : Space text (']' :: rest)) :
      Reads (.value (.array [])) ('[' :: text) rest
  | array {vs : List Value} {text rest : List Char}
      (h : Reads (.elements vs) text rest) :
      Reads (.value (.array vs)) ('[' :: text) rest
  | emptyObject {text rest : List Char} (h : Space text ('\x7d' :: rest)) :
      Reads (.value (.object [])) ('\x7b' :: text) rest
  | object {ms : List (String × Value)} {text rest : List Char}
      (h : Reads (.members ms) text rest) :
      Reads (.value (.object ms)) ('\x7b' :: text) rest
  | lastElement {v : Value} {text first next rest : List Char}
      (hBefore : Space text first) (hValue : Reads (.value v) first next)
      (hBehind : Space next (']' :: rest)) :
      Reads (.elements [v]) text rest
  | nextElement {v : Value} {vs : List Value}
      {text first next more rest : List Char}
      (hBefore : Space text first) (hValue : Reads (.value v) first next)
      (hBehind : Space next (',' :: more))
      (hMore : Reads (.elements vs) more rest) :
      Reads (.elements (v :: vs)) text rest
  | lastMember {key : List Char} {v : Value}
      {text name colon before first next rest : List Char}
      (hName : Space text ('"' :: name)) (hKey : ReadsString key name colon)
      (hColon : Space colon (':' :: before)) (hBefore : Space before first)
      (hValue : Reads (.value v) first next)
      (hBehind : Space next ('\x7d' :: rest)) :
      Reads (.members [(.ofList key, v)]) text rest
  | nextMember {key : List Char} {v : Value} {ms : List (String × Value)}
      {text name colon before first next more rest : List Char}
      (hName : Space text ('"' :: name)) (hKey : ReadsString key name colon)
      (hColon : Space colon (':' :: before)) (hBefore : Space before first)
      (hValue : Reads (.value v) first next)
      (hBehind : Space next (',' :: more))
      (hMore : Reads (.members ms) more rest) :
      Reads (.members ((.ofList key, v) :: ms)) text rest

/-! ## One text, one value -/

/-- Whether a value may begin with a character. -/
def Opens (c : Char) : Prop :=
  c ∈ ['n', 't', 'f', '"', '[', '\x7b', '-'] ∨ c.isDigit = true

/-- Whether a character stands between or behind the items of a list. -/
def IsMark (c : Char) : Prop := c = ',' ∨ c = ']' ∨ c = '\x7d'

theorem Opens.not_isSpace {c : Char} (h : Opens c) : ¬ IsSpace c := by
  rintro (rfl | rfl | rfl | rfl) <;> exact absurd h (by unfold Opens; decide)

theorem Opens.not_isMark {c : Char} (h : Opens c) : ¬ IsMark c := by
  rintro (rfl | rfl | rfl) <;> exact absurd h (by unfold Opens; decide)

theorem IsMark.not_isSpace {c : Char} (h : IsMark c) : ¬ IsSpace c := by
  rcases h with rfl | rfl | rfl <;> simp [IsSpace]

theorem IsMark.inNumerals {c : Char} (h : IsMark c) : inNumerals c = false := by
  rcases h with rfl | rfl | rfl <;> decide

/-- A number ends at white space and at a mark. -/
theorem IsMark.ends {c : Char} (h : IsMark c) {text rest : List Char}
    (hSpace : Space text (c :: rest)) : Ends text := by
  rintro d tail rfl
  cases hSpace with
  | none => exact h.inNumerals
  | more hSpace _ => rcases hSpace with rfl | rfl | rfl | rfl <;> decide

theorem Reads.opens {v : Value} {text rest : List Char}
    (h : Reads (.value v) text rest) :
    ∃ c tail, text = c :: tail ∧ Opens c := by
  cases h with
  | number hNumeral hText =>
    obtain ⟨c, tail, rfl, hOpens⟩ := hNumeral.opens
    refine ⟨c, _, hText, ?_⟩
    rcases hOpens with rfl | hDigit
    · exact .inl (by decide)
    · exact .inr hDigit
  | _ => exact ⟨_, _, rfl, .inl (by decide)⟩

private theorem isMark_comma : IsMark ',' := .inl rfl

private theorem isMark_bracket : IsMark ']' := .inr (.inl rfl)

private theorem isMark_brace : IsMark '\x7d' := .inr (.inr rfl)

/-- A list of elements does not begin with the bracket that closes it. -/
theorem Reads.elements_not_close {vs : List Value}
    {text rest other : List Char} (h : Reads (.elements vs) text rest) :
    ¬ Space text (']' :: other) := by
  intro hClose
  have hOpen : ∃ c tail, Space text (c :: tail) ∧ Opens c := by
    cases h with
    | lastElement hBefore hValue _ =>
      obtain ⟨c, tail, rfl, hOpens⟩ := hValue.opens
      exact ⟨c, tail, hBefore, hOpens⟩
    | nextElement hBefore hValue _ _ =>
      obtain ⟨c, tail, rfl, hOpens⟩ := hValue.opens
      exact ⟨c, tail, hBefore, hOpens⟩
  obtain ⟨c, tail, hSpace, hOpens⟩ := hOpen
  obtain ⟨rfl, -⟩ := hClose.unique hSpace isMark_bracket.not_isSpace
    hOpens.not_isSpace
  exact hOpens.not_isMark isMark_bracket

theorem Reads.members_not_close {ms : List (String × Value)}
    {text rest other : List Char} (h : Reads (.members ms) text rest) :
    ¬ Space text ('\x7d' :: other) := by
  intro hClose
  have hOpen : ∃ tail, Space text ('"' :: tail) := by
    cases h with
    | lastMember hName => exact ⟨_, hName⟩
    | nextMember hName => exact ⟨_, hName⟩
  obtain ⟨tail, hSpace⟩ := hOpen
  have hSame := hClose.unique hSpace isMark_brace.not_isSpace
    (by simp [IsSpace])
  exact absurd hSame.1 (by decide)

/-- No other phrase of the kind is spelled by the text. -/
def Phrase.Only : Phrase → List Char → List Char → Prop
  | .value v, text, rest => ∀ w other, Reads (.value w) text other →
    Ends rest → Ends other → v = w ∧ rest = other
  | .elements vs, text, rest => ∀ ws other,
    Reads (.elements ws) text other → vs = ws ∧ rest = other
  | .members ms, text, rest => ∀ ns other,
    Reads (.members ns) text other → ms = ns ∧ rest = other

/-- A value in a list is settled with the mark behind it. -/
theorem Phrase.Only.item {v w : Value}
    {text first next after other otherNext otherAfter : List Char}
    {mark otherMark : Char} (hOnly : Phrase.Only (.value v) first next)
    (hBefore : Space text first) (hValue : Reads (.value v) first next)
    (hBehind : Space next (mark :: after)) (hMark : IsMark mark)
    (hBefore' : Space text other) (hValue' : Reads (.value w) other otherNext)
    (hBehind' : Space otherNext (otherMark :: otherAfter))
    (hMark' : IsMark otherMark) :
    v = w ∧ mark = otherMark ∧ after = otherAfter := by
  obtain ⟨c, tail, rfl, hOpens⟩ := hValue.opens
  obtain ⟨d, otherTail, rfl, hOpens'⟩ := hValue'.opens
  obtain ⟨rfl, rfl⟩ :=
    hBefore.unique hBefore' hOpens.not_isSpace hOpens'.not_isSpace
  obtain ⟨rfl, rfl⟩ :=
    hOnly w otherNext hValue' (hMark.ends hBehind) (hMark'.ends hBehind')
  exact ⟨rfl, hBehind.unique hBehind' hMark.not_isSpace hMark'.not_isSpace⟩

/-- The name of a member is settled, and what follows the colon. -/
theorem key_unique {key otherKey text name otherName colon otherColon before
    otherBefore : List Char}
    (hName : Space text ('"' :: name)) (hKey : ReadsString key name colon)
    (hColon : Space colon (':' :: before))
    (hName' : Space text ('"' :: otherName))
    (hKey' : ReadsString otherKey otherName otherColon)
    (hColon' : Space otherColon (':' :: otherBefore)) :
    key = otherKey ∧ before = otherBefore := by
  have hQuote : ¬ IsSpace '"' := by simp [IsSpace]
  have hNoSpace : ¬ IsSpace ':' := by simp [IsSpace]
  obtain ⟨-, rfl⟩ := hName.unique hName' hQuote hQuote
  obtain ⟨rfl, rfl⟩ := hKey.unique hKey'
  exact ⟨rfl, (hColon.unique hColon' hNoSpace hNoSpace).2⟩

/-- What begins like no number is none. -/
theorem not_numeral {c : Char} {text numeral rest : List Char} {p : Prop}
    (hText : c :: text = numeral ++ rest) (h : IsNumeral numeral)
    (hMinus : c ≠ '-') (hDigit : c.isDigit = false) : p := by
  obtain ⟨d, tail, rfl, hOpens⟩ := h.opens
  obtain ⟨rfl, -⟩ := List.cons.inj hText
  rcases hOpens with rfl | hDigit'
  · exact absurd rfl hMinus
  · rw [hDigit] at hDigit'
    cases hDigit'

/-- By induction on the first reading; the second has to take the same rule. -/
theorem Reads.only {phrase : Phrase} {text rest : List Char}
    (h : Reads phrase text rest) : phrase.Only text rest := by
  induction h with
  | null =>
    intro w other h' _ _
    cases h' with
    | null => exact ⟨rfl, rfl⟩
    | number hNumeral hText =>
      exact not_numeral hText hNumeral (by decide) (by decide)
  | true =>
    intro w other h' _ _
    cases h' with
    | true => exact ⟨rfl, rfl⟩
    | number hNumeral hText =>
      exact not_numeral hText hNumeral (by decide) (by decide)
  | false =>
    intro w other h' _ _
    cases h' with
    | false => exact ⟨rfl, rfl⟩
    | number hNumeral hText =>
      exact not_numeral hText hNumeral (by decide) (by decide)
  | number hNumeral hText =>
    intro w other h' hEnds hEnds'
    cases h' with
    | number hNumeral' hText' =>
      obtain ⟨rfl, rfl⟩ :=
        hNumeral.unique hNumeral' (hText.symm.trans hText') hEnds hEnds'
      exact ⟨rfl, rfl⟩
    | _ => exact not_numeral hText hNumeral (by decide) (by decide)
  | string hString =>
    intro w other h' _ _
    cases h' with
    | string hString' =>
      obtain ⟨rfl, rfl⟩ := hString.unique hString'
      exact ⟨rfl, rfl⟩
    | number hNumeral hText =>
      exact not_numeral hText hNumeral (by decide) (by decide)
  | emptyArray hSpace =>
    intro w other h' _ _
    cases h' with
    | emptyArray hSpace' =>
      exact ⟨rfl, (hSpace.unique hSpace' isMark_bracket.not_isSpace
        isMark_bracket.not_isSpace).2⟩
    | array hElements => exact absurd hSpace hElements.elements_not_close
    | number hNumeral hText =>
      exact not_numeral hText hNumeral (by decide) (by decide)
  | array hElements ih =>
    intro w other h' _ _
    cases h' with
    | array hElements' =>
      obtain ⟨rfl, rfl⟩ := ih _ _ hElements'
      exact ⟨rfl, rfl⟩
    | emptyArray hSpace => exact absurd hSpace hElements.elements_not_close
    | number hNumeral hText =>
      exact not_numeral hText hNumeral (by decide) (by decide)
  | emptyObject hSpace =>
    intro w other h' _ _
    cases h' with
    | emptyObject hSpace' =>
      exact ⟨rfl, (hSpace.unique hSpace' isMark_brace.not_isSpace
        isMark_brace.not_isSpace).2⟩
    | object hMembers => exact absurd hSpace hMembers.members_not_close
    | number hNumeral hText =>
      exact not_numeral hText hNumeral (by decide) (by decide)
  | object hMembers ih =>
    intro w other h' _ _
    cases h' with
    | object hMembers' =>
      obtain ⟨rfl, rfl⟩ := ih _ _ hMembers'
      exact ⟨rfl, rfl⟩
    | emptyObject hSpace => exact absurd hSpace hMembers.members_not_close
    | number hNumeral hText =>
      exact not_numeral hText hNumeral (by decide) (by decide)
  | lastElement hBefore hValue hBehind ih =>
    intro ws other h'
    cases h' with
    | lastElement hBefore' hValue' hBehind' =>
      obtain ⟨rfl, -, rfl⟩ := ih.item hBefore hValue hBehind isMark_bracket
        hBefore' hValue' hBehind' isMark_bracket
      exact ⟨rfl, rfl⟩
    | nextElement hBefore' hValue' hBehind' _ =>
      have hSame := ih.item hBefore hValue hBehind isMark_bracket
        hBefore' hValue' hBehind' isMark_comma
      exact absurd hSame.2.1 (by decide)
  | nextElement hBefore hValue hBehind hMore ih ihMore =>
    intro ws other h'
    cases h' with
    | lastElement hBefore' hValue' hBehind' =>
      have hSame := ih.item hBefore hValue hBehind isMark_comma
        hBefore' hValue' hBehind' isMark_bracket
      exact absurd hSame.2.1 (by decide)
    | nextElement hBefore' hValue' hBehind' hMore' =>
      obtain ⟨rfl, -, rfl⟩ := ih.item hBefore hValue hBehind isMark_comma
        hBefore' hValue' hBehind' isMark_comma
      obtain ⟨rfl, rfl⟩ := ihMore _ _ hMore'
      exact ⟨rfl, rfl⟩
  | lastMember hName hKey hColon hBefore hValue hBehind ih =>
    intro ns other h'
    cases h' with
    | lastMember hName' hKey' hColon' hBefore' hValue' hBehind' =>
      obtain ⟨rfl, rfl⟩ := key_unique hName hKey hColon hName' hKey' hColon'
      obtain ⟨rfl, -, rfl⟩ := ih.item hBefore hValue hBehind isMark_brace
        hBefore' hValue' hBehind' isMark_brace
      exact ⟨rfl, rfl⟩
    | nextMember hName' hKey' hColon' hBefore' hValue' hBehind' _ =>
      obtain ⟨rfl, rfl⟩ := key_unique hName hKey hColon hName' hKey' hColon'
      have hSame := ih.item hBefore hValue hBehind isMark_brace
        hBefore' hValue' hBehind' isMark_comma
      exact absurd hSame.2.1 (by decide)
  | nextMember hName hKey hColon hBefore hValue hBehind hMore ih ihMore =>
    intro ns other h'
    cases h' with
    | lastMember hName' hKey' hColon' hBefore' hValue' hBehind' =>
      obtain ⟨rfl, rfl⟩ := key_unique hName hKey hColon hName' hKey' hColon'
      have hSame := ih.item hBefore hValue hBehind isMark_comma
        hBefore' hValue' hBehind' isMark_brace
      exact absurd hSame.2.1 (by decide)
    | nextMember hName' hKey' hColon' hBefore' hValue' hBehind' hMore' =>
      obtain ⟨rfl, rfl⟩ := key_unique hName hKey hColon hName' hKey' hColon'
      obtain ⟨rfl, -, rfl⟩ := ih.item hBefore hValue hBehind isMark_comma
        hBefore' hValue' hBehind' isMark_comma
      obtain ⟨rfl, rfl⟩ := ihMore _ _ hMore'
      exact ⟨rfl, rfl⟩

/-- What a text spells is one value, and it ends where it ends. -/
theorem Reads.unique {v w : Value} {text rest other : List Char}
    (h : Reads (.value v) text rest) (h' : Reads (.value w) text other)
    (hEnds : Ends rest) (hEnds' : Ends other) : v = w ∧ rest = other :=
  h.only w other h' hEnds hEnds'

/-! ## Reading what was escaped -/

private theorem codeUnit?_digits : ∀ code < 0x20,
    codeUnit? '0' '0' (Nat.digitChar (code / 16)) (Nat.digitChar (code % 16))
      = some code := by
  decide

/-- A character is escaped by a letter or by its code, or stands for itself. -/
theorem escape_cases (c : Char) :
    (∃ e, (e, c) ∈ shortEscapes ∧ escape c = ['\\', e]) ∨
      (c.toNat < 0x20 ∧ escape c = escapeCode c.toNat) ∨
      (0x20 ≤ c.toNat ∧ c ≠ '"' ∧ c ≠ '\\' ∧ escape c = [c]) := by
  by_cases hShort : c ∈ ['"', '\\', '\x08', '\x0c', '\n', '\r', '\t']
  · left
    simp only [List.mem_cons, List.not_mem_nil, or_false] at hShort
    rcases hShort with rfl | rfl | rfl | rfl | rfl | rfl | rfl <;>
      exact ⟨_, by decide, rfl⟩
  · right
    simp only [List.mem_cons, List.not_mem_nil, or_false, not_or] at hShort
    by_cases hCode : c.toNat < 0x20
    · exact .inl ⟨hCode, by simp [escape, hShort, hCode]⟩
    · have hPlain := escape_of_plain (Nat.not_lt.mp hCode) hShort.1 hShort.2.1
      exact .inr ⟨Nat.not_lt.mp hCode, hShort.1, hShort.2.1, hPlain⟩

theorem readsChar_escape (c : Char) (rest : List Char) :
    ReadsChar c (escape c ++ rest) rest := by
  rcases escape_cases c with ⟨e, hShort, hEscape⟩ | ⟨hCode, hEscape⟩ |
    ⟨hCode, hQuote, hSolidus, hEscape⟩
  · rw [hEscape]
    exact .short hShort
  · rw [hEscape]
    exact .code (codeUnit?_digits _ hCode)
  · rw [hEscape]
    exact .plain hCode hQuote hSolidus

/-- What is escaped reads as what it was. -/
theorem readsString_escape (chars rest : List Char) :
    ReadsString chars (chars.flatMap escape ++ '"' :: rest) rest := by
  induction chars with
  | nil => exact .close
  | cons c chars ih =>
    rw [List.flatMap_cons, List.append_assoc]
    exact .char (readsChar_escape c _) ih

end Json

end Preflight
