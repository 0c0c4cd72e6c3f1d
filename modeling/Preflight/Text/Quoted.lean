import Preflight.Text.Hidden

/-!
# Quoted text

A text is quoted so that its limits and all its characters can be seen.
Quotation marks and reverse solidi are escaped, and hidden characters are
written by a letter or by their code.

A line that goes to a terminal is guarded as well: the characters that a
terminal acts on are written by their code. Line breaks, tabs and carriage
returns stay as they are.
-/

namespace Preflight

/-- The digits of a code, base sixteen, in lower case. -/
def hexDigits (code : Nat) : List Char := Nat.toDigits 16 code

/-- How a character is written between quotation marks. -/
def quoteChar (c : Char) : List Char :=
  if c = '"' || c = '\\' then ['\\', c]
  else if c = '\x00' then ['\\', '0']
  else if c = '\t' then ['\\', 't']
  else if c = '\n' then ['\\', 'n']
  else if c = '\r' then ['\\', 'r']
  else if isHidden c then ['\\', 'u', '\x7b'] ++ hexDigits c.toNat ++ ['\x7d']
  else [c]

/-- A text between quotation marks. -/
def quoted (text : String) : String :=
  String.ofList ('"' :: text.toList.flatMap quoteChar ++ ['"'])

/-- The ASCII characters that a terminal acts on other than by moving on. -/
def isSteering (c : Char) : Bool :=
  c = '\x07' || c = '\x08' || c = '\x0c' || c = '\x1b' || c = '\x7f'

/-- How a character is written in a line for a terminal. -/
def guardChar (c : Char) : List Char :=
  if isSteering c then
    ['\\', 'x', Nat.digitChar (c.toNat / 16), Nat.digitChar (c.toNat % 16)]
  else if 0x80 ≤ c.toNat && c.toNat < 0xA0 then
    ['\\', 'u', '\x7b'] ++ hexDigits c.toNat ++ ['\x7d']
  else [c]

/-- A text for a terminal. -/
def guarded (text : String) : String :=
  String.ofList (text.toList.flatMap guardChar)

end Preflight
