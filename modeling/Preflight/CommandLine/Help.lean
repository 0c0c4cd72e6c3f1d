import Preflight.CommandLine.Options
import Preflight.Text.Terminal

/-!
# Help

The help text has one line for each option, in two columns. The line of a
setting ends with its environment variable, the value that variable has at
the moment, and the standard value. A line break inside a value is followed
by blanks up to the second column.

The text is written for a terminal, with the options in bold. The value of
a variable may hold controls itself, and one that opens a sequence and does
not end it takes what follows with it, up to the next option.
-/

namespace Preflight

/-- What settings fall back on: the environment variables that are set. -/
abbrev Fallbacks := Setting → Option Bytes

namespace Help

/-- The name of the program. -/
def programName : String := "pgprobe"

/-- The version of the program. -/
def programVersion : String := "0.1.0"

/-- The width of the first column. -/
def columnWidth : Nat := 39

/-- The blanks that fill up the first column. -/
def padding (taken : Nat) : String :=
  String.ofList (List.replicate (columnWidth - taken) ' ')

/-- One line of the help text: an indented option and what it is for. -/
def line (indent option about : String) : String :=
  indent ++ Terminal.bold option ++ padding (indent ++ option).toList.length
    ++ about ++ "\n"

/-- A text whose further lines begin in the second column. -/
def indented (text : String) : String :=
  String.ofList (text.toList.flatMap fun c =>
    if c = '\n' then '\n' :: List.replicate columnWidth ' ' else [c])

/-- What a setting is for. -/
def about : Setting → String
  | .tool => "Required build tool looked up on PATH"
  | .interpreter => "Primary Python interpreter"
  | .legacyInterpreter => "Legacy Python interpreter, probed best-effort"

/-- The line of a setting. -/
def settingLine (fallbacks : Fallbacks) (setting : Setting) : String :=
  let value := ((fallbacks setting).map Utf8.decodeLossy).getD ""
  line "      " (Name.setting setting).shown
    (about setting ++ " [env: " ++ setting.variableName ++ "="
      ++ indented value ++ "] [default: " ++ setting.standard ++ "]")

/-- The whole help text, as a terminal takes it. -/
def text (fallbacks : Fallbacks) : String :=
  "Preflight check for PostgreSQL development tools and Python interpreters\n"
    ++ "\nUsage: " ++ programName ++ " [OPTIONS]\n\nOptions:\n"
    ++ settingLine fallbacks .tool
    ++ settingLine fallbacks .interpreter
    ++ settingLine fallbacks .legacyInterpreter
    ++ line "      " "--no-legacy" "Skip the legacy interpreter probe"
    ++ line "      " "--json" "Print the report as JSON"
    ++ line "      " "--debug" "Enable debug logging"
    ++ line "  " "-h, --help" "Print help"
    ++ line "  " "-V, --version" "Print version"

/-- The program and its version. -/
def versionText : String := programName ++ " " ++ programVersion ++ "\n"

end Help

end Preflight
