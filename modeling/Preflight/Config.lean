/-!
# What is checked

A configuration names the tool that has to be installed, the interpreters
whose versions are reported, and the flag that makes an interpreter
announce its version.

## Main definitions

* `Config.standard` — the check for the PostgreSQL build tool and the two
  usual interpreters.
-/

namespace Preflight

/-- A tool that has to be installed, and what to do if it is not. -/
structure RequiredTool where
  /-- The name that is looked up. -/
  name : String
  /-- Advice to a user who lacks the tool. -/
  hint : String
  deriving DecidableEq

namespace RequiredTool

/-- The tool that is required unless another is named. -/
def standardName : String := "pg_config"

/-- Advice for a missing PostgreSQL build tool. -/
def standardHint : String :=
  "Please check if you installed the PostgreSQL development packages."

/-- A tool with the usual advice. -/
def named (name : String) : RequiredTool := ⟨name, standardHint⟩

/-- What is said when the tool cannot be used. -/
def missingMessage (tool : RequiredTool) : String :=
  "No " ++ tool.name ++ " found in your path."

end RequiredTool

/-- Everything a check depends on besides the machine. -/
structure Config where
  /-- The tool that has to be installed. -/
  requiredTool : RequiredTool
  /-- The interpreter whose version is reported. -/
  interpreter : String
  /-- An older interpreter to ask as well, if one is wanted. -/
  legacyInterpreter : Option String
  /-- The argument that makes an interpreter announce its version. -/
  versionFlag : String
  deriving DecidableEq

namespace Config

/-- The interpreter that is asked unless another is named. -/
def standardInterpreter : String := "python"

/-- The older interpreter that is asked unless another is named. -/
def standardLegacy : String := "python2.7"

/-- The flag that interpreters announce their version for. -/
def standardFlag : String := "-V"

/-- The check that is made when nothing else is asked for. -/
def standard : Config where
  requiredTool := .named RequiredTool.standardName
  interpreter := standardInterpreter
  legacyInterpreter := some standardLegacy
  versionFlag := standardFlag

end Config

end Preflight
