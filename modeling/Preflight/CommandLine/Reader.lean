import Preflight.CommandLine.Help
import Preflight.CommandLine.Word
import Preflight.Text.Line
import Preflight.Text.Terminal

/-!
# Reading the command line

Arguments are read from left to right. A flag, and a setting with its value
behind an equals sign, is settled where it stands. A setting by itself
stays pending: plain text that follows is its value, and it is settled when
the next option without a fault of its own is met, or at the end. Only then
is it noticed that the value is missing, that the setting was given before,
or that the value is not text, in this order. What is no option, and a
value for an option that takes none, is noticed at once and so goes before
a fault of the setting still pending.

Environment variables are read last, for the settings not given, so no
fault of theirs hides one of the arguments.

## Main results

* `Halt.escape_not_mem_message` — whatever the arguments and the environment
  hold, what is told of them opens no sequence in a terminal.
-/

namespace Preflight

/-- Why reading ends without options to act on. -/
inductive Halt where
  /-- A text was asked for. -/
  | inquiry (inquiry : Inquiry)
  /-- An argument that is no option and no value, as it is shown. -/
  | unknownArgument (shown : String)
  /-- A setting without a value. -/
  | missingValue (setting : Setting)
  /-- An option that is given twice. -/
  | repeated (name : Name)
  /-- A value for an option that takes none. -/
  | excessValue (value : String) (name : Name)
  /-- A value that is not text. -/
  | invalidText
  deriving DecidableEq

namespace Halt

/--
What is wrong with a command line, as a terminal takes it, with what the
command line itself holds in bold. It is one line if no value breaks it.
-/
def complaint : Halt → String
  | .inquiry _ => ""
  | .unknownArgument shown =>
    "error: unexpected argument '" ++ Terminal.bold shown ++ "' found"
  | .missingValue setting =>
    "error: a value is required for '" ++ (Name.setting setting).shown
      ++ "' but none was supplied"
  | .repeated name =>
    "error: the argument '" ++ name.shown ++ "' cannot be used multiple times"
  | .excessValue value name =>
    "error: unexpected value '" ++ Terminal.bold value ++ "' for '"
      ++ name.shown ++ "' found; no more were expected"
  | .invalidText =>
    "error: invalid UTF-8 was detected in one or more arguments"

/--
The text that was asked for, or the first line of what is wrong, as plain
text.
-/
def message (manner : Terminal.Manner) (fallbacks : Fallbacks) :
    Halt → String
  | .inquiry .help => manner.plain (Help.text fallbacks)
  | .inquiry .version => Help.versionText
  | halt => firstLine (manner.plain halt.complaint)

/-- Whether reading ended for a fault of the command line. -/
def isFault : Halt → Bool
  | .inquiry _ => false
  | _ => true

/-- The exit status of a program whose command line ends so. -/
def status (halt : Halt) : UInt8 := if halt.isFault then 2 else 0

theorem escape_not_mem_message (manner : Terminal.Manner)
    (fallbacks : Fallbacks) (halt : Halt) :
    Terminal.escape ∉ (halt.message manner fallbacks).toList := by
  have hPlain : ∀ text, Terminal.escape ∉ (manner.plain text).toList := by
    intro text
    rw [Terminal.Manner.plain, String.toList_ofList]
    exact manner.escape_not_mem_shown _ _ _
  have hLine : ∀ text,
      Terminal.escape ∉ (firstLine (manner.plain text)).toList := by
    intro text hMem
    exact hPlain text (mem_of_mem_firstLine hMem)
  cases halt with
  | inquiry inquiry =>
    cases inquiry with
    | help => exact hPlain _
    | version =>
      show Terminal.escape ∉ Help.versionText.toList
      decide
  | unknownArgument | missingValue | repeated | excessValue | invalidText =>
    exact hLine _

end Halt

/-- What was settled so far, in order. -/
structure Given where
  flags : List Flag
  values : List (Setting × String)
  deriving DecidableEq

namespace Given

/-- Nothing settled. -/
def empty : Given := ⟨[], []⟩

/-- The value of a setting that was settled. -/
def value? (given : Given) (setting : Setting) : Option String :=
  given.values.lookup setting

/-- Settles a flag. -/
def addFlag (given : Given) (flag : Flag) : Except Halt Given :=
  if given.flags.contains flag then .error (.repeated (.flag flag))
  else .ok { given with flags := given.flags ++ [flag] }

/-- Settles a setting with a value. -/
def addValue (given : Given) (setting : Setting) (value : Bytes) :
    Except Halt Given :=
  if (given.value? setting).isSome then .error (.repeated (.setting setting))
  else match Utf8.decode? value with
    | none => .error .invalidText
    | some text =>
      .ok { given with values := given.values ++ [(setting, text)] }

end Given

/-- A reader between two arguments. -/
structure Reader where
  given : Given
  /-- The setting that is not settled yet, with its value if that is there. -/
  pending : Option (Setting × Option Bytes)
  deriving DecidableEq

namespace Reader

/-- A reader before the first argument. -/
def start : Reader := ⟨.empty, none⟩

/-- Settles what is pending. -/
def settle (reader : Reader) : Except Halt Given :=
  match reader.pending with
  | none => .ok reader.given
  | some (setting, none) => .error (.missingValue setting)
  | some (setting, some value) => reader.given.addValue setting value

/-- Takes plain text, which only a setting without a value can use. -/
def takePlain (reader : Reader) (text : Bytes) : Except Halt Reader :=
  match reader.pending with
  | some (setting, none) =>
    .ok { reader with pending := some (setting, some text) }
  | _ => .error (.unknownArgument (Utf8.decodeLossy text))

/-- Takes one word. The terminator is not taken but ends the options. -/
def take (reader : Reader) : Word → Except Halt Reader
  | .terminator => .ok reader
  | .unknown shown => .error (.unknownArgument shown)
  | .overfull name value =>
    .error (.excessValue (Utf8.decodeLossy value) name)
  | .plain text => reader.takePlain text
  | .inquiry inquiry => do
    let _ ← reader.settle
    .error (.inquiry inquiry)
  | .flag flag => do
    let given ← reader.settle
    return ⟨← given.addFlag flag, none⟩
  | .setting setting (some value) => do
    let given ← reader.settle
    return ⟨← given.addValue setting value, none⟩
  | .setting setting none => do
    let given ← reader.settle
    return ⟨given, some (setting, none)⟩

/-- Reads all arguments. Nothing may follow the terminator. -/
def read (reader : Reader) : List Bytes → Except Halt Given
  | [] => reader.settle
  | argument :: rest =>
    if Word.ofBytes argument = .terminator then
      match rest with
      | [] => reader.settle
      | extra :: _ => .error (.unknownArgument (Utf8.decodeLossy extra))
    else do
      let next ← reader.take (Word.ofBytes argument)
      next.read rest

end Reader

namespace Given

/--
The value of a setting: the one given, else that of its environment
variable, else the standard one.
-/
def resolve (given : Given) (fallbacks : Fallbacks) (setting : Setting) :
    Except Halt String :=
  match given.value? setting, fallbacks setting with
  | some text, _ => .ok text
  | none, none => .ok setting.standard
  | none, some bytes =>
    match Utf8.decode? bytes with
    | some text => .ok text
    | none => .error .invalidText

/-- The options that a command line amounts to. -/
def options (given : Given) (fallbacks : Fallbacks) :
    Except Halt Options := do
  return {
    tool := ← given.resolve fallbacks .tool
    interpreter := ← given.resolve fallbacks .interpreter
    legacyInterpreter := ← given.resolve fallbacks .legacyInterpreter
    noLegacy := given.flags.contains .noLegacy
    json := given.flags.contains .json
    debug := given.flags.contains .debug }

end Given

namespace Options

/-- The options of a command line in an environment. -/
def read (fallbacks : Fallbacks) (arguments : List Bytes) :
    Except Halt Options := do
  let given ← Reader.start.read arguments
  given.options fallbacks

end Options

end Preflight
