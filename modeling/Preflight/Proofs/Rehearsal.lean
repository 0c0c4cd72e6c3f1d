import Preflight.Proofs.Check
import Preflight.Rehearsal

/-!
# What a rehearsal remembers

A session is known by its requests. What a stage knows at any moment can be
told from the requests that were made so far: a name stands for what it was
registered with last, the configuration is the last one that was set, and
the record of calls is made up of what each request contributed when it was
made. A request contributes the programs it asks for; only for a check does
that depend on what was registered, and then on the required tool alone.

## Main results

* `Stage.Reflects.serve`, `Stage.Reflects.after` — a stage goes on to
  reflect its past, request by request and over a whole session.
* `Stage.calls_session` — the record of calls, at every point of every
  session.
-/

namespace Preflight

/-! ## The past of a stage -/

namespace Request

/-- The file that a request makes a name stand for. -/
def tool? (name : String) : Request → Option ResolvedTool
  | .registerTool other tool => if other = name then some tool else none
  | _ => none

/-- The outcome that a request makes a name stand for. -/
def outcome? (name : String) : Request → Option Captured
  | .registerProgram other outcome =>
    if other = name then some outcome else none
  | _ => none

/-- The configuration that a request sets. -/
def config? : Request → Option Config
  | .configure config => some config
  | _ => none

end Request

namespace Session

/-- What the last of some requests that settles a matter makes of it. -/
def latest {α : Type} (settles : Request → Option α)
    (past : List Request) : Option α :=
  past.reverse.findSome? settles

theorem latest_append {α : Type} (settles : Request → Option α)
    (past rest : List Request) :
    latest settles (past ++ rest)
      = (latest settles rest).or (latest settles past) := by
  simp only [latest, List.reverse_append, List.findSome?_append]

theorem latest_singleton {α : Type} (settles : Request → Option α)
    (request : Request) : latest settles [request] = settles request := by
  simp only [latest, List.reverse_singleton, List.findSome?_cons,
    List.findSome?_nil]
  cases settles request <;> rfl

theorem latest_append_singleton {α : Type} (settles : Request → Option α)
    (past : List Request) (request : Request) :
    latest settles (past ++ [request])
      = (settles request).or (latest settles past) := by
  rw [latest_append, latest_singleton]

/-- The configuration after some requests, given the one before them. -/
def configAfter (initial : Config) (past : List Request) : Config :=
  (latest Request.config? past).getD initial

/-! ## The record of calls -/

/--
The calls that a request contributes, given the requests before it. A check
contributes none unless the required tool is registered then, and as one
that may be executed.
-/
def contribution (initial : Config) (past : List Request) :
    Request → List Call
  | .invoke call => [call]
  | .queryVersion name => [⟨name, [(configAfter initial past).versionFlag]⟩]
  | .check =>
    let config := configAfter initial past
    match latest (Request.tool? config.requiredTool.name) past with
    | some ⟨_, true⟩ =>
      ⟨config.interpreter, [config.versionFlag]⟩
        :: match config.legacyInterpreter with
          | some legacy => [⟨legacy, [config.versionFlag]⟩]
          | none => []
    | _ => []
  | .registerTool _ _ | .registerProgram _ _ | .configure _ | .lookUp _
  | .listCalls | .wasCalled _ | .requirePath => []

/-- What further requests contribute, one after another. -/
def recordFrom (initial : Config) (past : List Request) :
    List Request → List Call
  | [] => []
  | request :: rest =>
    contribution initial past request
      ++ recordFrom initial (past ++ [request]) rest

/-- What all requests of a session contribute, one after another. -/
def record (initial : Config) (requests : List Request) : List Call :=
  recordFrom initial [] requests

theorem recordFrom_append (initial : Config)
    (past first second : List Request) :
    recordFrom initial past (first ++ second)
      = recordFrom initial past first
        ++ recordFrom initial (past ++ first) second := by
  induction first generalizing past with
  | nil => simp [recordFrom]
  | cons request rest ih => simp [recordFrom, ih]

theorem record_append_singleton (initial : Config) (past : List Request)
    (request : Request) :
    record initial (past ++ [request])
      = record initial past ++ contribution initial past request := by
  rw [record, recordFrom_append]
  simp [record, recordFrom]

end Session

/-! ## A stage and its past -/

theorem Registry.find?_register {α : Type} (registry : Registry α)
    (name other : String) (thing : α) :
    (registry.register name thing).find? other
      = (if name = other then some thing else none).or
        (registry.find? other) := by
  by_cases h : name = other
  · rw [if_pos h, h, find?_register_self]
    rfl
  · rw [if_neg h, find?_register_ne registry (Ne.symm h)]
    rfl

namespace Stage

open Session

/-- A stage on which nothing happened yet, with the check to rehearse. -/
def opening (config : Config) : Stage := { empty with config := config }

/-- A stage knows what the requests made so far tell, and nothing else. -/
structure Reflects (initial : Config) (past : List Request) (stage : Stage) :
    Prop where
  tools : ∀ name, stage.tools.find? name = latest (Request.tool? name) past
  programs : ∀ name,
    stage.programs.find? name = latest (Request.outcome? name) past
  config : stage.config = configAfter initial past
  calls : stage.calls = record initial past

theorem reflects_opening (config : Config) :
    Reflects config [] (opening config) :=
  ⟨fun _ => rfl, fun _ => rfl, rfl, rfl⟩

variable {initial : Config} {past : List Request} {stage : Stage}

/-- The calls of a check, by the file that the required tool stands for. -/
theorem calls_check (stage : Stage) :
    (stage.respond .check).calls =
      match stage.tools.find? stage.config.requiredTool.name with
      | some ⟨_, true⟩ => Check.plannedCalls stage.config
      | _ => [] := by
  have hCalls : (stage.respond .check).calls
      = (Check.run stage.resolver stage.invoker stage.config).calls :=
    List.append_nil _
  have hAnswer : (stage.resolver stage.config.requiredTool.name).answer
      = stage.tools.find? stage.config.requiredTool.name := rfl
  rw [hCalls, Check.calls_run, Check.value_requiredPath, hAnswer]
  rcases stage.tools.find? stage.config.requiredTool.name
    with _ | ⟨path, _ | _⟩ <;> rfl

/-- A request calls what it contributes, if the stage reflects its past. -/
theorem Reflects.calls_respond (h : Reflects initial past stage)
    (request : Request) :
    (stage.respond request).calls = contribution initial past request := by
  cases request with
  | invoke call => rfl
  | queryVersion name =>
    show (Check.queryVersion stage.invoker _ name).calls ++ [] = _
    rw [List.append_nil, Check.calls_queryVersion, h.config]
    rfl
  | check =>
    rw [calls_check, h.tools, h.config]
    simp only [contribution, Check.plannedCalls]
    cases (configAfter initial past).legacyInterpreter <;> rfl
  | requirePath =>
    show (Check.requiredPath stage.resolver _).calls ++ [] = _
    rw [List.append_nil, Check.calls_requiredPath]
    rfl
  | _ => rfl

/-- The step: a stage that reflects its past goes on to do so. -/
theorem Reflects.serve (h : Reflects initial past stage) (request : Request) :
    Reflects initial (past ++ [request]) (stage.serve request).2 where
  tools := by
    intro name
    rw [latest_append_singleton, ← h.tools]
    cases request with
    | registerTool other tool =>
      exact stage.tools.find?_register other name tool
    | _ => rfl
  programs := by
    intro name
    rw [latest_append_singleton, ← h.programs]
    cases request with
    | registerProgram other outcome =>
      exact stage.programs.find?_register other name outcome
    | _ => rfl
  config := by
    rw [configAfter, latest_append_singleton]
    cases request with
    | configure config => rfl
    | _ => exact h.config
  calls := by
    rw [calls_serve, h.calls, h.calls_respond, record_append_singleton]

/-- The run: it does so over any number of further requests. -/
theorem Reflects.after (h : Reflects initial past stage)
    (requests : List Request) :
    Reflects initial (past ++ requests) (stage.after requests) := by
  induction requests generalizing past stage with
  | nil =>
    rw [List.append_nil]
    exact h
  | cons request rest ih =>
    have hRest := ih (h.serve request)
    rw [List.append_assoc] at hRest
    exact hRest

/-! ## Replies -/

/-- Each request of a session is served on the stage that it finds. -/
theorem getElem?_replies (stage : Stage) (before rest : List Request)
    (request : Request) :
    (stage.replies (before ++ request :: rest))[before.length]?
      = some ((stage.after before).serve request).1 := by
  induction before generalizing stage with
  | nil => rfl
  | cons first before ih => exact ih (stage.serve first).2

theorem wasCalled_iff {program : String} :
    stage.wasCalled program = true ↔
      ∃ call ∈ stage.calls, call.program = program := by
  simp [wasCalled]

/--
The record of calls, for every session that begins with nothing registered
and nothing called. At every point it is what the requests so far have
contributed, in order, whatever they were; that is what is answered if the
record is asked for, and a program counts as called exactly if it is the
program of an entry.
-/
theorem calls_session (config : Config) (requests : List Request) :
    let stage := opening config
    (stage.after requests).calls = record config requests ∧
    ∀ before request rest, requests = before ++ request :: rest →
      let reply := (stage.replies requests)[before.length]?
      (request = .listCalls →
        reply = some ⟨.calls (record config before), []⟩) ∧
      ∀ program, request = .wasCalled program →
        ∃ called, reply = some ⟨.called called, []⟩ ∧
          (called = true ↔
            ∃ call ∈ record config before, call.program = program) := by
  intro stage
  have hReflects := (reflects_opening config).after
  refine ⟨(hReflects requests).calls, ?_⟩
  rintro before request rest rfl reply
  have hReply : reply = some ((stage.after before).serve request).1 :=
    getElem?_replies stage before rest request
  have hCalls : (stage.after before).calls = record config before :=
    (hReflects before).calls
  rw [hReply, ← hCalls]
  constructor
  · rintro rfl
    rfl
  · rintro program rfl
    exact ⟨_, rfl, wasCalled_iff⟩

/-- A check contributes nothing before the required tool is registered. -/
example : record .standard
    [.check, .registerTool "pg_config" ⟨[], true⟩, .invoke ⟨"ruby", []⟩, .check]
      = [⟨"ruby", []⟩, ⟨"python", ["-V"]⟩, ⟨"python2.7", ["-V"]⟩] := rfl

end Stage

end Preflight
