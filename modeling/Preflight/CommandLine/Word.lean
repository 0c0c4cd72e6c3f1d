import Preflight.CommandLine.Options
import Preflight.Text.Utf8

/-!
# Words of the command line

What an argument is can be told from its bytes alone: a name behind two
dashes, with or without a value behind an equals sign, a letter behind one
dash, the pair of dashes that ends the options, or plain text. A single
dash and the empty argument are plain text.

## Main results

* `Word.ofBytes_of_head_ne` — what does not begin with a dash is plain text.
-/

namespace Preflight

/-- What an argument is, by itself. -/
inductive Word where
  /-- The end of the options, two dashes. -/
  | terminator
  | flag (flag : Flag)
  | inquiry (inquiry : Inquiry)
  /-- A setting, with the value behind the equals sign if there is one. -/
  | setting (setting : Setting) (value : Option Bytes)
  /-- An option that takes no value, with one. -/
  | overfull (name : Name) (value : Bytes)
  /-- No option, as it is shown in messages. -/
  | unknown (shown : String)
  /-- Text that is no option by its form. -/
  | plain (text : Bytes)
  deriving DecidableEq

namespace Word

/-- The byte that options begin with. -/
def dash : UInt8 := 0x2D

/-- The byte between a name and its value. -/
def equals : UInt8 := 0x3D

/-- The option that has a name. -/
def named? (name : Bytes) : Option Name :=
  Name.all.find? fun candidate => Utf8.encode candidate.spelling == name

/-- The word for a name and perhaps a value. -/
def ofName (name : Bytes) (value : Option Bytes) : Word :=
  match named? name, value with
  | none, _ => .unknown ("--" ++ Utf8.decodeLossy name)
  | some (.setting s), value => .setting s value
  | some (.flag f), none => .flag f
  | some (.inquiry q), none => .inquiry q
  | some option, some value => .overfull option value

/--
What stands behind two dashes: a name, up to the first equals sign, and all
that follows the sign as its value.
-/
def ofLong (body : Bytes) : Word :=
  match body.dropWhile (· ≠ equals) with
  | [] => ofName body none
  | _ :: value => ofName (body.takeWhile (· ≠ equals)) (some value)

/--
What stands behind one dash. Only the first character counts, and it is
shown alone if it is no option; bytes that spell none are shown with all
that follow them.
-/
def ofCluster (cluster : Bytes) : Word :=
  match (Utf8.scan cluster).head? with
  | some (some 'h') => .inquiry .help
  | some (some 'V') => .inquiry .version
  | some (some c) => .unknown (String.ofList ['-', c])
  | _ => .unknown ("-" ++ Utf8.decodeLossy cluster)

/-- What an argument is. -/
def ofBytes : Bytes → Word
  | [] => .plain []
  | first :: rest =>
    if first ≠ dash ∨ rest = [] then .plain (first :: rest)
    else if rest = [dash] then .terminator
    else if rest.head? = some dash then ofLong rest.tail
    else ofCluster rest

theorem ofBytes_of_head_ne {argument : Bytes}
    (h : argument.head? ≠ some dash) : ofBytes argument = .plain argument := by
  cases argument with
  | nil => rfl
  | cons first rest => simp_all [ofBytes]

end Word

end Preflight
