/-!
# JSON strings

A string is written between quotation marks. A quotation mark, a reverse
solidus and the control characters below U+0020 are escaped, five of the
latter by a letter and the others by four hexadecimal digits in lower case.
Every other character stands for itself.

## Main results

* `Json.escape_of_plain` — a character that needs no escape is written as
  it is.
-/

namespace Preflight

namespace Json

/-- A control character by its code, which is below `0x100`. -/
def escapeCode (code : Nat) : List Char :=
  ['\\', 'u', '0', '0', Nat.digitChar (code / 16), Nat.digitChar (code % 16)]

/-- How a character is written inside a string. -/
def escape (c : Char) : List Char :=
  if c = '"' then ['\\', '"']
  else if c = '\\' then ['\\', '\\']
  else if c = '\x08' then ['\\', 'b']
  else if c = '\x0c' then ['\\', 'f']
  else if c = '\n' then ['\\', 'n']
  else if c = '\r' then ['\\', 'r']
  else if c = '\t' then ['\\', 't']
  else if c.toNat < 0x20 then escapeCode c.toNat
  else [c]

theorem escape_of_plain {c : Char} (hCode : 0x20 ≤ c.toNat)
    (hQuote : c ≠ '"') (hSolidus : c ≠ '\\') : escape c = [c] := by
  have hNot : ∀ d : Char, d.toNat < 0x20 → c ≠ d := by
    rintro d hd rfl
    omega
  simp [escape, hQuote, hSolidus, hNot '\x08' (by decide),
    hNot '\x0c' (by decide), hNot '\n' (by decide), hNot '\r' (by decide),
    hNot '\t' (by decide), Nat.not_lt.mpr hCode]

/-- A text as a JSON string. -/
def string (text : String) : String :=
  String.ofList ('"' :: text.toList.flatMap escape ++ ['"'])

end Json

end Preflight
