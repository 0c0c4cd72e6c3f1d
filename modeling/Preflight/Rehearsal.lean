import Preflight.Check
import Preflight.Registry

/-!
# Rehearsals

A check can be rehearsed without a machine: tools and programs are
registered by name, with the file and the outcome that shall answer each.
A session is a series of requests to such a stage. Registrations and
configurations change what is answered later; every program that is asked
for is noted down, known or not, and nothing else is remembered.

## Main results

* `Stage.calls_serve` — a request adds its own calls to the record and
  changes none of the others.
-/

namespace Preflight

/-- Stand-ins for a machine, the check to rehearse and the calls made so far. -/
structure Stage where
  tools : Registry ResolvedTool
  programs : Registry Captured
  config : Config
  calls : List Call

/-- Something asked of a stage. -/
inductive Request where
  | registerTool (name : String) (tool : ResolvedTool)
  | registerProgram (name : String) (outcome : Captured)
  | configure (config : Config)
  | lookUp (name : String)
  | invoke (call : Call)
  | listCalls
  | wasCalled (name : String)
  | requirePath
  | queryVersion (name : String)
  | check

/-- What a stage answers. -/
inductive Answer where
  | done
  | configured (config : Config)
  | found (tool : Option ResolvedTool)
  | invoked (outcome : Except StartError Captured)
  | calls (calls : List Call)
  | called (called : Bool)
  | path (outcome : Except Failure Bytes)
  | version (version : Option Version)
  | report (outcome : Except Failure Report)

/-- An answer and what was said on the way to it. -/
structure Reply where
  answer : Answer
  events : List Event

namespace Stage

/-- A stage on which nothing is registered and nothing was called. -/
def empty : Stage := ⟨.empty, .empty, .standard, []⟩

/-- The resolver that knows the registered tools. It says nothing. -/
def resolver (stage : Stage) : Resolver := fun name =>
  ⟨stage.tools.find? name, []⟩

/-- The invoker that knows the registered programs. -/
def invoker (stage : Stage) : Invoker := fun call =>
  match stage.programs.find? call.program with
  | some outcome => .ok outcome
  | none => .error (.unknownProgram call.program)

/-- Whether a program was asked for. -/
def wasCalled (stage : Stage) (program : String) : Bool :=
  stage.calls.any (·.program == program)

/-- The answer to a request, with what is said and called on the way. -/
def respond (stage : Stage) : Request → Traced Answer
  | .registerTool _ _ | .registerProgram _ _ => return .done
  | .configure config => return .configured config
  | .lookUp name => do
    Traced.say (stage.resolver name).events
    return .found (stage.resolver name).answer
  | .invoke call => return .invoked (← Traced.invoke stage.invoker call)
  | .listCalls => return .calls stage.calls
  | .wasCalled name => return .called (stage.wasCalled name)
  | .requirePath =>
    return .path
      (← Check.requiredPath stage.resolver stage.config.requiredTool.name)
  | .queryVersion name =>
    return .version
      (← Check.queryVersion stage.invoker stage.config.versionFlag name)
  | .check =>
    return .report (← Check.run stage.resolver stage.invoker stage.config)

/-- The stage after a request, calls aside. -/
def update (stage : Stage) : Request → Stage
  | .registerTool name tool =>
    { stage with tools := stage.tools.register name tool }
  | .registerProgram name outcome =>
    { stage with programs := stage.programs.register name outcome }
  | .configure config => { stage with config := config }
  | _ => stage

/-- Carries out a request. -/
def serve (stage : Stage) (request : Request) : Reply × Stage :=
  let response := stage.respond request
  (⟨response.value, response.events⟩,
    { stage.update request with calls := stage.calls ++ response.calls })

/-- A request adds its own calls to the record and changes none of the others. -/
theorem calls_serve (stage : Stage) (request : Request) :
    (stage.serve request).2.calls
      = stage.calls ++ (stage.respond request).calls := rfl

/-- The stage after a session. -/
def after (stage : Stage) (requests : List Request) : Stage :=
  requests.foldl (fun stage request => (stage.serve request).2) stage

/-- The replies of a session. -/
def replies (stage : Stage) : List Request → List Reply
  | [] => []
  | request :: rest =>
    (stage.serve request).1 :: (stage.serve request).2.replies rest

end Stage

end Preflight
