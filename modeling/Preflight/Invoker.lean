import Preflight.FileTree.Lookup
import Preflight.Trace

/-!
# Starting programs

An invoker answers a call with what the program left behind, or with the
reason why it could not be started. It is a function of the call alone, and
who starts a program records the call whatever the answer is.

## Main results

* `Traced.calls_invoke` — starting a program records exactly its call.
-/

namespace Preflight

/-- Why a program could not be started. -/
inductive StartError where
  /-- No program is known by the name. -/
  | unknownProgram (program : String)
  /-- The search path leaves nothing to try. -/
  | noCandidate
  /-- The path of the program leads nowhere. -/
  | lookup (cause : LookupError)
  /-- There is something by the name that may not be executed. -/
  | permissionDenied
  /-- The name or an argument holds a zero byte. -/
  | zeroByte
  /-- An argument is longer than a program can be given. -/
  | argumentTooLong
  /-- Any other reason, in the words of the system. -/
  | other (text : String)
  deriving DecidableEq

/-- A failed lookup in the words of the system. -/
def LookupError.message : LookupError → String
  | .noSuchFile => "No such file or directory (os error 2)"
  | .notADirectory => "Not a directory (os error 20)"
  | .accessDenied => "Permission denied (os error 13)"
  | .nameTooLong => "File name too long (os error 36)"
  | .tooManyLinks => "Too many levels of symbolic links (os error 40)"
  | .zeroByte => "file name contained an unexpected NUL byte"

/-- Why a program could not be started, in words. -/
def StartError.message : StartError → String
  | .unknownProgram program => program ++ ": not found"
  | .noCandidate => "No child processes (os error 10)"
  | .lookup cause => cause.message
  | .permissionDenied => LookupError.accessDenied.message
  | .zeroByte => "nul byte found in provided data"
  | .argumentTooLong => "Argument list too long (os error 7)"
  | .other text => text

/-- A way to start programs. -/
abbrev Invoker := Call → Except StartError Captured

namespace Traced

/-- Starts a program. -/
def invoke (invoker : Invoker) (call : Call) :
    Traced (Except StartError Captured) :=
  ⟨invoker call, [], [call]⟩

@[simp] theorem value_invoke (invoker : Invoker) (call : Call) :
    (invoke invoker call).value = invoker call := rfl

@[simp] theorem events_invoke (invoker : Invoker) (call : Call) :
    (invoke invoker call).events = [] := rfl

@[simp] theorem calls_invoke (invoker : Invoker) (call : Call) :
    (invoke invoker call).calls = [call] := rfl

end Traced

end Preflight
