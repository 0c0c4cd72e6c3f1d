import Preflight.FileTree.Listing

/-!
# Manifests

A manifest writes a listing as text, an entry a line, with a tab between
two fields:

* `dir`, a mode and a path;
* `file`, a mode and a path, then what the program in it prints as a line
  on the output stream and on the error stream, and its exit code;
* `pipe`, a mode and a path;
* `link`, a path and the target.

Fields at the end may be left out. Modes are octal numbers and exit codes
decimal ones. A line of another form describes nothing.
-/

namespace Preflight

namespace Manifest

/-- The number that digits below `base` write, if all of them are such digits. -/
def number? (base : Nat) (digits : List Char) : Option Nat :=
  if digits.all fun c => c.isDigit && c.toNat - '0'.toNat < base then
    some (digits.foldl (fun n c => n * base + (c.toNat - '0'.toNat)) 0)
  else none

/-- A field as a printed line; an empty field prints nothing. -/
def printed (field : List Char) : Bytes :=
  if field.isEmpty then [] else Utf8.encode (String.ofList (field ++ ['\n']))

/-- A field as a path. -/
def path (field : List Char) : Bytes := Utf8.encode (String.ofList field)

/-- The program that the last fields of a file describe. -/
def script? (fields : List (List Char)) : Option Script := do
  let code ← number? 10 (fields.getD 2 [])
  return ⟨printed (fields.getD 0 []), printed (fields.getD 1 []), false,
    .exited (UInt8.ofNat code)⟩

/-- The entry that the fields of a line describe. -/
def entry? (fields : List (List Char)) : Option Entry := do
  let kind :: first :: second :: rest := fields | none
  if kind = "link".toList then
    return ⟨path first, .link (path second)⟩
  let mode ← number? 8 first
  if kind = "dir".toList then return ⟨path second, .directory mode⟩
  else if kind = "pipe".toList then return ⟨path second, .special mode⟩
  else if kind = "file".toList then
    return ⟨path second, .file mode (← script? rest)⟩
  else none

/-- The entries of a manifest. -/
def entries (text : String) : List Entry :=
  (text.toList.splitOn '\n').filterMap fun line => entry? (line.splitOn '\t')

end Manifest

/-- The tree that a manifest describes. -/
def FileTree.ofManifest (text : String) : FileTree :=
  .ofEntries (Manifest.entries text)

end Preflight
