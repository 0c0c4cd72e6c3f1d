import Preflight.Text.Blank
import Preflight.Text.Line

/-!
# Versions

Interpreters announce themselves as `Python 3.11.4`: a name, blanks and a
version. The token of an output is therefore the second field of its first
line; a line of one field gives that field, and a line of none gives
nothing. A version is the front of a token, three characters long at most,
which is enough to tell `3.1` from `2.7`.

## Main results

* `Version.ofOutput_eq` — the version of an output is that of its token.
-/

namespace Preflight

/-! ## Fields -/

/-- The first field of a line, empty if there is none, and what follows it. -/
def nextField (line : List Char) : List Char × List Char :=
  ((line.dropWhile isBlank).takeWhile (!isBlank ·),
   (line.dropWhile isBlank).dropWhile (!isBlank ·))

/-- The second field of a line, else its first field, else nothing. -/
def lineToken? (line : List Char) : Option (List Char) :=
  match nextField line with
  | ([], _) => none
  | (first, rest) =>
    match nextField rest with
    | ([], _) => some first
    | (second, _) => some second

/-- The token of an output: that of its first line. -/
def versionToken? (output : String) : Option String :=
  ((firstLine? output.toList).bind lineToken?).map String.ofList

/-! ## Versions -/

/-- The version of an interpreter, as far as it is reported. -/
structure Version where
  /-- The characters reported. -/
  text : String
  deriving DecidableEq

namespace Version

/-- The version of an interpreter that said nothing. -/
def empty : Version := ⟨""⟩

/-- How many characters of a token are reported. -/
def width : Nat := 3

/-- The version that a token begins with. -/
def ofToken (token : String) : Version :=
  ⟨String.ofList (token.toList.take width)⟩

/-- The version that an output announces, empty if it has no token. -/
def ofOutput (output : String) : Version :=
  match versionToken? output with
  | none => empty
  | some token => ofToken token

theorem ofOutput_eq (output : String) :
    ofOutput output = ((versionToken? output).map ofToken).getD empty := by
  unfold ofOutput
  cases versionToken? output <;> rfl

/-- Whether nothing is known of the version. -/
def isEmpty (version : Version) : Bool := version.text.isEmpty

end Version

end Preflight
