import Preflight.CommandLine.Word
import Preflight.Proofs.Text.Utf8

/-!
# How words are spelled

Every argument is of one form, and `Word.Form` lists the forms with the
words that they are read as. What is true of all words that arguments are
read as is shown by going through this list.

A word that can be part of an accepted command line is spelled in one way,
and `Word.spelling?` says how. Inquiries have several spellings, and words
that are no option or have a value too many are never accepted.

## Main results

* `Word.ofBytes_eq_iff_form` — the forms are right and there are no others.
* `Word.ofBytes_eq_iff` — a word with a spelling is what its spelling is
  read as, and what no other argument is read as.
* `Word.isPlain_encode_iff` — which texts are plain by their first
  character.
-/

namespace Preflight

/-! ## Names -/

theorem Name.spelling_injective : Function.Injective Name.spelling := by
  intro front back h
  rcases front with (_ | _ | _) | (_ | _ | _) | (_ | _) <;>
    rcases back with (_ | _ | _) | (_ | _ | _) | (_ | _) <;>
      first | rfl | exact absurd h (by decide)

/-- The letter that stands for an inquiry behind a single dash. -/
def Inquiry.letter : Inquiry → Char
  | .help => 'h'
  | .version => 'V'

namespace Word

theorem eq_encode_of_named? {name : Bytes} {option : Name}
    (h : named? name = some option) : name = Utf8.encode option.spelling := by
  unfold named? at h
  have hSpelled := List.find?_some h
  exact (beq_iff_eq.mp hSpelled).symm

theorem named?_spelling (option : Name) :
    named? (Utf8.encode option.spelling) = some option := by
  have hIsSome : (named? (Utf8.encode option.spelling)).isSome = true := by
    rw [named?, List.find?_isSome]
    exact ⟨option, Name.mem_all option, beq_self_eq_true _⟩
  obtain ⟨other, hOther⟩ := Option.isSome_iff_exists.mp hIsSome
  have hSame := Utf8.encode_injective (eq_encode_of_named? hOther)
  rw [hOther, Name.spelling_injective hSame]

theorem named?_eq_none {name : Bytes}
    (h : ∀ option : Name, name ≠ Utf8.encode option.spelling) :
    named? name = none :=
  Option.eq_none_iff_forall_ne_some.mpr fun option hNamed =>
    h option (eq_encode_of_named? hNamed)

theorem equals_not_mem_spelling (option : Name) :
    equals ∉ Utf8.encode option.spelling := by
  rcases option with (_ | _ | _) | (_ | _ | _) | (_ | _) <;> decide +kernel

/-! ## Behind two dashes -/

/-- What stands behind the name of an option. -/
def behind : Option Bytes → Bytes
  | none => []
  | some value => equals :: value

/-- Two dashes and a name. -/
def long (name : Name) : Bytes := dash :: dash :: Utf8.encode name.spelling

private theorem ne_equals {name : Bytes} (h : equals ∉ name) :
    ∀ octet ∈ name, decide (octet ≠ equals) = true := by
  intro octet hMem
  rw [decide_eq_true_eq]
  rintro rfl
  exact h hMem

theorem ofLong_behind {name : Bytes} (h : equals ∉ name)
    (value : Option Bytes) : ofLong (name ++ behind value) = ofName name value := by
  rw [ofLong, List.dropWhile_append_of_pos (ne_equals h)]
  cases value with
  | none =>
    rw [behind, List.append_nil]
    rfl
  | some value =>
    rw [behind, List.takeWhile_append_of_pos (ne_equals h)]
    simp

/-- What stands behind two dashes is a name and perhaps a value. -/
theorem exists_behind (body : Bytes) :
    ∃ name value, body = name ++ behind value ∧ equals ∉ name := by
  by_cases hMem : equals ∈ body
  · obtain ⟨name, value, rfl, hName⟩ := List.eq_append_cons_of_mem hMem
    exact ⟨name, some value, rfl, hName⟩
  · exact ⟨body, none, (List.append_nil body).symm, hMem⟩

theorem ofBytes_dashes {name : Bytes} (hEquals : equals ∉ name)
    {value : Option Bytes} (hBody : name ++ behind value ≠ []) :
    ofBytes (dash :: dash :: (name ++ behind value)) = ofName name value := by
  rw [← ofLong_behind hEquals]
  simp [ofBytes, hBody]

theorem ofBytes_long (option : Name) (value : Option Bytes) :
    ofBytes (long option ++ behind value)
      = ofName (Utf8.encode option.spelling) value := by
  refine ofBytes_dashes (equals_not_mem_spelling option) ?_
  rcases option with (_ | _ | _) | (_ | _ | _) | (_ | _) <;> exact nofun

/-! ## Behind one dash -/

theorem ofBytes_cluster {cluster : Bytes} (hSome : cluster ≠ [])
    (hHead : cluster.head? ≠ some dash) :
    ofBytes (dash :: cluster) = ofCluster cluster := by
  have hDash : cluster ≠ [dash] := by
    rintro rfl
    exact hHead rfl
  simp [ofBytes, hSome, hDash, hHead]

theorem head?_encodeChar_iff {c : Char} {rest : Bytes} :
    (String.utf8EncodeChar c ++ rest).head? = some dash ↔ c = '-' := by
  constructor
  · intro h
    obtain ⟨tail, hTail⟩ := List.head?_eq_some_iff.mp h
    have hDash : Utf8.scan (dash :: tail) = some '-' :: Utf8.scan tail := rfl
    rw [← hTail, Utf8.scan_encodeChar] at hDash
    exact Option.some.inj (List.cons.inj hDash).1
  · rintro rfl
    rfl

/-- Bytes that begin with a character are a cluster unless it is a dash. -/
theorem ofBytes_encodeChar {c : Char} (hDash : c ≠ '-') (rest : Bytes) :
    ofBytes (dash :: (String.utf8EncodeChar c ++ rest))
      = ofCluster (String.utf8EncodeChar c ++ rest) := by
  refine ofBytes_cluster ?_ (mt head?_encodeChar_iff.mp hDash)
  intro hNil
  have hScan := Utf8.scan_encodeChar c rest
  rw [hNil] at hScan
  cases hScan

theorem ofCluster_letter (q : Inquiry) (rest : Bytes) :
    ofCluster (String.utf8EncodeChar q.letter ++ rest) = .inquiry q := by
  rw [ofCluster, Utf8.scan_encodeChar]
  cases q <;> rfl

theorem ofCluster_stray {c : Char} (h : ∀ q : Inquiry, c ≠ q.letter)
    (rest : Bytes) :
    ofCluster (String.utf8EncodeChar c ++ rest)
      = .unknown (String.ofList ['-', c]) := by
  rw [ofCluster, Utf8.scan_encodeChar]
  have hHelp : c ≠ 'h' := h .help
  have hVersion : c ≠ 'V' := h .version
  simp

theorem ofCluster_broken {cluster : Bytes}
    (h : ∀ c rest, cluster ≠ String.utf8EncodeChar c ++ rest) :
    ofCluster cluster = .unknown ("-" ++ Utf8.decodeLossy cluster) := by
  have hHead : ∀ c, (Utf8.scan cluster).head? ≠ some (some c) := by
    intro c hChar
    obtain ⟨others, hScan⟩ := List.head?_eq_some_iff.mp hChar
    obtain ⟨rest, hRest, -⟩ := Utf8.scan_eq_cons_iff.mp hScan
    exact h c rest hRest
  unfold ofCluster
  split
  · exact absurd ‹_› (hHead 'h')
  · exact absurd ‹_› (hHead 'V')
  · exact absurd ‹_› (hHead _)
  · rfl

/-! ## The forms of arguments -/

/-- Whether bytes are plain text by their form. -/
def IsPlain (text : Bytes) : Prop := text.head? ≠ some dash ∨ text = [dash]

instance (text : Bytes) : Decidable (IsPlain text) :=
  inferInstanceAs (Decidable (_ ∨ _))

/-- What an argument of each form is read as. -/
inductive Form : Bytes → Word → Prop
  | plain {text : Bytes} : IsPlain text → Form text (.plain text)
  | terminator : Form [dash, dash] .terminator
  | flag (f : Flag) : Form (long (.flag f)) (.flag f)
  | setting (s : Setting) (value : Option Bytes) :
    Form (long (.setting s) ++ behind value) (.setting s value)
  | inquiry (q : Inquiry) : Form (long (.inquiry q)) (.inquiry q)
  | overfull {option : Name} (value : Bytes) :
    (∀ s, option ≠ .setting s) →
      Form (long option ++ equals :: value) (.overfull option value)
  | unnamed {name : Bytes} {value : Option Bytes} :
    equals ∉ name → name ++ behind value ≠ [] →
      (∀ option : Name, name ≠ Utf8.encode option.spelling) →
        Form (dash :: dash :: (name ++ behind value))
          (.unknown ("--" ++ Utf8.decodeLossy name))
  | letter (q : Inquiry) (rest : Bytes) :
    Form (dash :: (String.utf8EncodeChar q.letter ++ rest)) (.inquiry q)
  | stray {c : Char} (rest : Bytes) :
    c ≠ '-' → (∀ q : Inquiry, c ≠ q.letter) →
      Form (dash :: (String.utf8EncodeChar c ++ rest))
        (.unknown (String.ofList ['-', c]))
  | broken {cluster : Bytes} :
    cluster ≠ [] → (∀ c rest, cluster ≠ String.utf8EncodeChar c ++ rest) →
      Form (dash :: cluster) (.unknown ("-" ++ Utf8.decodeLossy cluster))

theorem ofBytes_of_form {argument : Bytes} {word : Word}
    (h : Form argument word) : ofBytes argument = word := by
  cases h with
  | plain hPlain =>
    cases hPlain with
    | inl hHead => exact ofBytes_of_head_ne hHead
    | inr hDash =>
      rw [hDash]
      rfl
  | terminator => rfl
  | flag f =>
    rw [← List.append_nil (long _), ← behind, ofBytes_long]
    simp only [ofName, named?_spelling]
  | setting s value =>
    rw [ofBytes_long]
    cases value <;> simp only [ofName, named?_spelling]
  | inquiry q =>
    rw [← List.append_nil (long _), ← behind, ofBytes_long]
    simp only [ofName, named?_spelling]
  | @overfull option value hNoValue =>
    rw [← behind, ofBytes_long]
    cases option with
    | setting s => exact absurd rfl (hNoValue s)
    | flag f => simp only [ofName, named?_spelling]
    | inquiry q => simp only [ofName, named?_spelling]
  | unnamed hEquals hBody hName =>
    simp only [ofBytes_dashes hEquals hBody, ofName, named?_eq_none hName]
  | letter q rest =>
    rw [ofBytes_encodeChar (by cases q <;> decide), ofCluster_letter]
  | stray rest hDash hLetter =>
    rw [ofBytes_encodeChar hDash, ofCluster_stray hLetter]
  | broken hSome hBroken =>
    rw [ofBytes_cluster hSome ?_, ofCluster_broken hBroken]
    intro hHead
    obtain ⟨rest, hRest⟩ := List.head?_eq_some_iff.mp hHead
    exact hBroken '-' rest hRest

/-- A name and perhaps a value behind two dashes are of some form. -/
theorem exists_form_long {name : Bytes} {value : Option Bytes}
    (hEquals : equals ∉ name) (hBody : name ++ behind value ≠ []) :
    ∃ word, Form (dash :: dash :: (name ++ behind value)) word := by
  cases hName : named? name with
  | none =>
    refine ⟨_, .unnamed hEquals hBody ?_⟩
    rintro option rfl
    rw [named?_spelling] at hName
    cases hName
  | some option =>
    rw [eq_encode_of_named? hName]
    cases option with
    | setting s => exact ⟨_, .setting s value⟩
    | flag f =>
      cases value with
      | none =>
        rw [behind, List.append_nil]
        exact ⟨_, .flag f⟩
      | some value => exact ⟨_, .overfull value nofun⟩
    | inquiry q =>
      cases value with
      | none =>
        rw [behind, List.append_nil]
        exact ⟨_, .inquiry q⟩
      | some value => exact ⟨_, .overfull value nofun⟩

/-- A cluster is of some form. -/
theorem exists_form_cluster {cluster : Bytes} (hSome : cluster ≠ [])
    (hHead : cluster.head? ≠ some dash) :
    ∃ word, Form (dash :: cluster) word := by
  by_cases hChar : ∃ c rest, cluster = String.utf8EncodeChar c ++ rest
  · obtain ⟨c, rest, rfl⟩ := hChar
    by_cases hLetter : ∃ q : Inquiry, c = q.letter
    · obtain ⟨q, rfl⟩ := hLetter
      exact ⟨_, .letter q rest⟩
    · exact ⟨_, .stray rest (mt head?_encodeChar_iff.mpr hHead)
        (not_exists.mp hLetter)⟩
  · refine ⟨_, .broken hSome ?_⟩
    intro c rest hCluster
    exact hChar ⟨c, rest, hCluster⟩

theorem exists_form (argument : Bytes) : ∃ word, Form argument word := by
  by_cases hPlain : IsPlain argument
  · exact ⟨_, .plain hPlain⟩
  · obtain ⟨hHead, hLong⟩ := not_or.mp hPlain
    obtain ⟨cluster, rfl⟩ :=
      List.head?_eq_some_iff.mp (Classical.not_not.mp hHead)
    have hSome : cluster ≠ [] := by
      rintro rfl
      exact hLong rfl
    by_cases hDash : cluster.head? = some dash
    · obtain ⟨body, rfl⟩ := List.head?_eq_some_iff.mp hDash
      by_cases hBody : body = []
      · rw [hBody]
        exact ⟨_, .terminator⟩
      · obtain ⟨name, value, rfl, hEquals⟩ := exists_behind body
        exact exists_form_long hEquals hBody
    · exact exists_form_cluster hSome hDash

/-- What an argument is read as is told by its form, and it has one. -/
theorem ofBytes_eq_iff_form {argument : Bytes} {word : Word} :
    ofBytes argument = word ↔ Form argument word := by
  refine ⟨?_, ofBytes_of_form⟩
  rintro rfl
  obtain ⟨word, hForm⟩ := exists_form argument
  rw [ofBytes_of_form hForm]
  exact hForm

theorem ofBytes_eq_plain_iff {argument text : Bytes} :
    ofBytes argument = .plain text ↔ IsPlain text ∧ argument = text := by
  rw [ofBytes_eq_iff_form]
  constructor
  · rintro ⟨hPlain⟩
    exact ⟨hPlain, rfl⟩
  · rintro ⟨hPlain, rfl⟩
    exact .plain hPlain

/-! ## Spellings -/

/-- The spelling of a word, if it can be accepted at all and has but one. -/
def spelling? : Word → Option Bytes
  | .terminator => some [dash, dash]
  | .flag f => some (long (.flag f))
  | .setting s none => some (long (.setting s))
  | .setting s (some value) => some (long (.setting s) ++ equals :: value)
  | .plain text => if IsPlain text then some text else none
  | .inquiry _ | .overfull _ _ | .unknown _ => none

theorem form_spelling {word : Word} {spelling : Bytes}
    (h : word.spelling? = some spelling) : Form spelling word := by
  cases word with
  | terminator =>
    cases h
    exact .terminator
  | flag f =>
    cases h
    exact .flag f
  | setting s value =>
    cases value with
    | none =>
      cases h
      rw [← List.append_nil (long _)]
      exact .setting s none
    | some value =>
      cases h
      exact .setting s (some value)
  | plain text =>
    simp only [spelling?, Option.ite_none_right_eq_some] at h
    obtain ⟨hPlain, hText⟩ := h
    cases hText
    exact .plain hPlain
  | inquiry q => cases h
  | overfull name value => cases h
  | unknown shown => cases h

/-- What a spelling is read as. -/
theorem ofBytes_spelling {word : Word} {spelling : Bytes}
    (h : word.spelling? = some spelling) : ofBytes spelling = word :=
  ofBytes_of_form (form_spelling h)

/-- No other argument is read as the word that a spelling is of. -/
theorem spelling_of_form {argument spelling : Bytes} {word : Word}
    (hForm : Form argument word) (h : word.spelling? = some spelling) :
    spelling = argument := by
  cases hForm with
  | plain hPlain =>
    rw [spelling?, if_pos hPlain] at h
    exact (Option.some.inj h).symm
  | setting s value =>
    cases value with
    | none => simpa [spelling?, behind] using h.symm
    | some value => exact (Option.some.inj h).symm
  | terminator => exact (Option.some.inj h).symm
  | flag f => exact (Option.some.inj h).symm
  | inquiry q => cases h
  | overfull value hNoValue => cases h
  | unnamed hEquals hBody hName => cases h
  | letter q rest => cases h
  | stray rest hDash hLetter => cases h
  | broken hSome hBroken => cases h

theorem ofBytes_eq_iff {word : Word} {spelling : Bytes}
    (h : word.spelling? = some spelling) (argument : Bytes) :
    ofBytes argument = word ↔ argument = spelling := by
  rw [ofBytes_eq_iff_form]
  constructor
  · intro hForm
    exact (spelling_of_form hForm h).symm
  · rintro rfl
    exact form_spelling h

theorem long_eq_encode (name : Name) :
    long name = Utf8.encode ("--" ++ name.spelling) := by
  rw [Utf8.encode_append]
  rfl

theorem long_glued_eq_encode (s : Setting) (text : String) :
    long (.setting s) ++ equals :: Utf8.encode text
      = Utf8.encode ("--" ++ s.spelling ++ "=" ++ text) := by
  have hEquals : Utf8.encode "=" = [equals] := rfl
  rw [Utf8.encode_append, Utf8.encode_append, hEquals, List.append_assoc,
    long_eq_encode]
  rfl

theorem ofBytes_flag (f : Flag) :
    ofBytes (Utf8.encode ("--" ++ (Name.flag f).spelling)) = .flag f := by
  rw [← long_eq_encode]
  exact ofBytes_spelling rfl

theorem ofBytes_glued (s : Setting) (text : String) :
    ofBytes (Utf8.encode ("--" ++ s.spelling ++ "=" ++ text))
      = .setting s (some (Utf8.encode text)) := by
  rw [← long_glued_eq_encode]
  exact ofBytes_spelling rfl

theorem ofBytes_setting (s : Setting) :
    ofBytes (Utf8.encode ("--" ++ s.spelling)) = .setting s none := by
  have hLong := long_eq_encode (.setting s)
  rw [Name.spelling] at hLong
  rw [← hLong]
  exact ofBytes_spelling rfl

/-! ## Plain text -/

theorem head?_encode_iff {text : String} :
    (Utf8.encode text).head? = some dash ↔ text.toList.head? = some '-' := by
  rw [Utf8.encode]
  cases text.toList with
  | nil => simp
  | cons c others =>
    rw [List.flatMap_cons, head?_encodeChar_iff, List.head?_cons,
      Option.some.injEq]

/-- A text is plain unless it begins with a dash and goes on. -/
theorem isPlain_encode_iff {text : String} :
    IsPlain (Utf8.encode text) ↔
      text = "-" ∨ text.toList.head? ≠ some '-' := by
  have hDash : Utf8.encode "-" = [dash] := rfl
  rw [IsPlain, ne_eq, head?_encode_iff, ← hDash,
    Utf8.encode_injective.eq_iff, or_comm]

end Word

end Preflight
