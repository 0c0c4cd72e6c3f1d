import Preflight.Captured
import Preflight.Failure
import Preflight.Version

/-!
# What happens on the way

A check says what it does, one event after another, and it starts programs,
one call after another. Both are part of its result, so that a statement
about a check can speak of them. `Traced` pairs a value with the events and
calls that led to it; one computation after another has the trace of the
first followed by that of the second.

## Main results

* `Traced.value_bind`, `Traced.events_bind`, `Traced.calls_bind` — what two
  computations in a row give, say and start.
-/

namespace Preflight

/-- A program that is started, with its arguments. -/
structure Call where
  program : String
  arguments : List String
  deriving DecidableEq

/-- One thing that is said on the way. -/
inductive Event where
  /-- A search for a name ended at an executable file. -/
  | resolved (name : String) (path : Bytes)
  /-- A search met a regular file that may not be executed. -/
  | skipped (path : Bytes)
  /-- There is no file by the required tool's name. -/
  | toolNotFound (tool : String)
  /-- The required tool is there and may not be executed. -/
  | toolNotExecutable (tool : String) (path : Bytes)
  /-- The required tool can be used. -/
  | usingTool (tool : String) (path : Bytes)
  /-- An interpreter could not be started. -/
  | couldNotRun (program flag : String) (reason : String)
  /-- An interpreter ended otherwise than with exit code 0. -/
  | exitedWith (program flag : String) (exitCode : Option Int)
  /-- An interpreter was asked for its version. -/
  | reportsVersion (program : String) (version : Version)
  /-- The check failed for want of the required tool. -/
  | preflightFailed (failure : Failure)
  deriving DecidableEq

namespace Event

/-- An exit code as it is told in an event. -/
def exitText : Option Int → String
  | none => "None"
  | some code => "Some(" ++ toString code ++ ")"

/-- An event in words. -/
def message : Event → String
  | .resolved name path =>
    "Resolved " ++ name ++ " to " ++ Utf8.decodeLossy path
  | .skipped path => "Skipping non-executable " ++ Utf8.decodeLossy path
  | .toolNotFound tool => tool ++ " not found on search path"
  | .toolNotExecutable tool path =>
    tool ++ " found at " ++ Utf8.decodeLossy path ++ " but not executable"
  | .usingTool tool path => "Using " ++ tool ++ " at " ++ Utf8.decodeLossy path
  | .couldNotRun program flag reason =>
    "Could not run " ++ program ++ " " ++ flag ++ ": " ++ reason
  | .exitedWith program flag exitCode =>
    program ++ " " ++ flag ++ " exited with " ++ exitText exitCode
  | .reportsVersion program version =>
    program ++ " reports version '" ++ version.text ++ "'"
  | .preflightFailed failure => "Preflight failed: " ++ failure.message

end Event

/-- A value with the events and calls that led to it, in order. -/
structure Traced (α : Type) where
  value : α
  events : List Event
  calls : List Call

namespace Traced

variable {α β : Type}

instance : Monad Traced where
  pure value := ⟨value, [], []⟩
  bind first next :=
    ⟨(next first.value).value, first.events ++ (next first.value).events,
      first.calls ++ (next first.value).calls⟩

@[simp] theorem value_pure (a : α) : (pure a : Traced α).value = a := rfl

@[simp] theorem events_pure (a : α) : (pure a : Traced α).events = [] := rfl

@[simp] theorem calls_pure (a : α) : (pure a : Traced α).calls = [] := rfl

@[simp] theorem value_bind (x : Traced α) (f : α → Traced β) :
    (x >>= f).value = (f x.value).value := rfl

@[simp] theorem events_bind (x : Traced α) (f : α → Traced β) :
    (x >>= f).events = x.events ++ (f x.value).events := rfl

@[simp] theorem calls_bind (x : Traced α) (f : α → Traced β) :
    (x >>= f).calls = x.calls ++ (f x.value).calls := rfl

/-- Says things. -/
def say (events : List Event) : Traced Unit := ⟨(), events, []⟩

@[simp] theorem events_say (events : List Event) :
    (say events).events = events := rfl

@[simp] theorem calls_say (events : List Event) : (say events).calls = [] :=
  rfl

end Traced

end Preflight
