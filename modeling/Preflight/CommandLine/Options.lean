import Preflight.Config

/-!
# Options of the command line

Six things can be set: three names, each with a value, and three flags.
Two inquiries ask for a text instead of a check. This module gives each
its spelling on the command line, and each name the environment variable
and the standard value that it falls back on.
-/

namespace Preflight

/-- An option that is given or not. -/
inductive Flag where
  | noLegacy
  | json
  | debug
  deriving DecidableEq

/-- An option with a value. -/
inductive Setting where
  | tool
  | interpreter
  | legacyInterpreter
  deriving DecidableEq

/-- A request for a text instead of a check. -/
inductive Inquiry where
  | help
  | version
  deriving DecidableEq

/-- What the name of an option can stand for. -/
inductive Name where
  | flag (flag : Flag)
  | setting (setting : Setting)
  | inquiry (inquiry : Inquiry)
  deriving DecidableEq

namespace Setting

/-- The name of the setting behind two dashes. -/
def spelling : Setting → String
  | .tool => "pg-config"
  | .interpreter => "python"
  | .legacyInterpreter => "legacy-python"

/-- What the value of the setting is called. -/
def valueName : Setting → String
  | .tool => "PG_CONFIG"
  | .interpreter => "PYTHON"
  | .legacyInterpreter => "LEGACY_PYTHON"

/-- The environment variable that the setting falls back on. -/
def variableName : Setting → String
  | .tool => "PGPROBE_PG_CONFIG"
  | .interpreter => "PGPROBE_PYTHON"
  | .legacyInterpreter => "PGPROBE_LEGACY_PYTHON"

/-- The value of a setting that is given nowhere. -/
def standard : Setting → String
  | .tool => RequiredTool.standardName
  | .interpreter => Config.standardInterpreter
  | .legacyInterpreter => Config.standardLegacy

end Setting

namespace Name

/-- The name behind two dashes. -/
def spelling : Name → String
  | .flag .noLegacy => "no-legacy"
  | .flag .json => "json"
  | .flag .debug => "debug"
  | .setting s => s.spelling
  | .inquiry .help => "help"
  | .inquiry .version => "version"

/-- All names that options have. -/
def all : List Name :=
  [.setting .tool, .setting .interpreter, .setting .legacyInterpreter,
   .flag .noLegacy, .flag .json, .flag .debug, .inquiry .help,
   .inquiry .version]

theorem mem_all (name : Name) : name ∈ all := by
  rcases name with (_ | _ | _) | (_ | _ | _) | (_ | _) <;> decide

/-- An option as it is shown in messages. -/
def shown : Name → String
  | .setting s => "--" ++ s.spelling ++ " <" ++ s.valueName ++ ">"
  | name => "--" ++ name.spelling

end Name

/-- Everything that a command line decides. -/
structure Options where
  /-- The required tool. -/
  tool : String
  /-- The interpreter whose version is reported. -/
  interpreter : String
  /-- The older interpreter. -/
  legacyInterpreter : String
  /-- Whether the older interpreter is left alone. -/
  noLegacy : Bool
  /-- Whether the report is a JSON object. -/
  json : Bool
  /-- Whether events are shown. -/
  debug : Bool
  deriving DecidableEq

namespace Options

/-- The options of a command line without arguments. -/
def standard : Options where
  tool := Setting.tool.standard
  interpreter := Setting.interpreter.standard
  legacyInterpreter := Setting.legacyInterpreter.standard
  noLegacy := false
  json := false
  debug := false

/-- The check that the options ask for. -/
def config (options : Options) : Config where
  requiredTool := .named options.tool
  interpreter := options.interpreter
  legacyInterpreter :=
    if options.noLegacy then none else some options.legacyInterpreter
  versionFlag := Config.standardFlag

end Options

end Preflight
