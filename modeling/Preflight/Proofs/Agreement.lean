import Preflight.Proofs.Rehearsal

/-!
# Sessions that come to the same

A stage answers from what names stand for and from its configuration. The
record of calls is kept beside them and answers for nothing else. So stages
that agree but for their records cannot be told apart by further requests,
unless those ask for the record.

What a name stands for was settled by the last request on the matter. Two
sessions whose last requests settled the same therefore come to the same,
however they got there: what settles nothing can be left out, requests on
different matters can change places, and of two on one matter the earlier
can be left out as well.

## Main results

* `Stage.Agree.serve`, `Stage.Agree.indistinct` — stages that agree go on to
  do so, request by request, and reply alike over a whole session.
* `Session.latest_filter`, `Session.latest_swap`, `Session.latest_replaced` —
  changes to a session that make no difference to what was settled last.
* `Stage.replies_determined` — sessions are determined by what they settled.
-/

namespace Preflight

/-! ## What requests settle -/

/-- Something that requests settle for the time to come. -/
inductive Matter where
  | tool (name : String)
  | program (name : String)
  | config
  deriving DecidableEq

/-- The matter that a request settles. Most requests settle none. -/
def Request.matter? : Request → Option Matter
  | .registerTool name _ => some (.tool name)
  | .registerProgram name _ => some (.program name)
  | .configure _ => some .config
  | .lookUp _ | .invoke _ | .listCalls | .wasCalled _ | .requirePath
  | .queryVersion _ | .check => none

namespace Session

variable {α : Type} {settles : Request → Option α}

/-- What is settled by the requests on one matter, and by no others. -/
def About (matter : Matter) (settles : Request → Option α) : Prop :=
  ∀ request, settles request = none ↔ request.matter? ≠ some matter

theorem About.eq_none {matter : Matter} (h : About matter settles)
    {request : Request} (hIdle : request.matter? = none) :
    settles request = none := by
  apply (h request).mpr
  rw [hIdle]
  nofun

theorem about_tool (name : String) :
    About (.tool name) (Request.tool? name) := by
  intro request
  cases request <;> simp [Request.tool?, Request.matter?]

theorem about_program (name : String) :
    About (.program name) (Request.outcome? name) := by
  intro request
  cases request <;> simp [Request.outcome?, Request.matter?]

theorem about_config : About .config Request.config? := by
  intro request
  cases request <;> simp [Request.config?, Request.matter?]

/-! ## What was settled last -/

/-- Requests at the end that settle nothing change nothing. -/
theorem latest_append_of_forall {rest : List Request}
    (h : ∀ request ∈ rest, settles request = none) (past : List Request) :
    latest settles (past ++ rest) = latest settles past := by
  have hRest : latest settles rest = none := by
    apply List.findSome?_eq_none_iff.mpr
    intro request hMem
    exact h request (List.mem_reverse.mp hMem)
  rw [latest_append, hRest, Option.none_or]

theorem latest_cons (settles : Request → Option α) (request : Request)
    (rest : List Request) :
    latest settles (request :: rest)
      = (latest settles rest).or (settles request) := by
  rw [← latest_singleton settles request]
  exact latest_append settles [request] rest

/-- Requests that settle nothing can be left out. -/
theorem latest_filter {keep : Request → Bool}
    (h : ∀ request, keep request = false → settles request = none)
    (past : List Request) :
    latest settles (past.filter keep) = latest settles past := by
  induction past with
  | nil => rfl
  | cons request rest ih =>
    rw [latest_cons, List.filter_cons]
    cases hKeep : keep request with
    | true =>
      rw [if_pos rfl, latest_cons, ih]
    | false =>
      rw [if_neg Bool.false_ne_true, ih, h request hKeep, Option.or_none]

/-- Two requests can change places unless both settle something. -/
theorem latest_swap {first second : Request}
    (h : settles first = none ∨ settles second = none)
    (past : List Request) :
    latest settles (past ++ [first, second])
      = latest settles (past ++ [second, first]) := by
  rw [latest_append settles past [first, second],
    latest_append settles past [second, first]]
  simp only [latest_cons]
  cases h with
  | inl hFirst => simp [hFirst, latest]
  | inr hSecond => simp [hSecond, latest]

/-- A request can be left out if a later one settles what it settles. -/
theorem latest_replaced {first second : Request}
    (h : settles first = none ∨ settles second ≠ none)
    (past between : List Request) :
    latest settles (past ++ first :: (between ++ [second]))
      = latest settles (past ++ (between ++ [second])) := by
  rw [latest_append, latest_cons, latest_append settles past]
  cases h with
  | inl hFirst => rw [hFirst, Option.or_none]
  | inr hSecond =>
    obtain ⟨thing, hThing⟩ := Option.ne_none_iff_exists'.mp hSecond
    rw [latest_append_singleton, hThing]
    rfl

end Session

/-! ## Replies apart from the record -/

/-- An answer, with nothing told of the record of calls. -/
def Answer.apart : Answer → Answer
  | .calls _ => .calls []
  | .called _ => .called false
  | answer => answer

/-- A reply, with nothing told of the record of calls. -/
def Reply.apart (reply : Reply) : Reply :=
  ⟨reply.answer.apart, reply.events⟩

namespace Stage

/-- Two stages with the same knowledge, whatever their records are. -/
structure Agree (one other : Stage) : Prop where
  tools : ∀ name, one.tools.find? name = other.tools.find? name
  programs : ∀ name, one.programs.find? name = other.programs.find? name
  config : one.config = other.config

/-- Two stages that no session tells apart without asking for the record. -/
def Indistinct (one other : Stage) : Prop :=
  ∀ requests, (one.replies requests).map Reply.apart
    = (other.replies requests).map Reply.apart

namespace Agree

variable {one other : Stage}

theorem resolver (h : Agree one other) : one.resolver = other.resolver := by
  funext name
  rw [Stage.resolver, Stage.resolver, h.tools]

theorem invoker (h : Agree one other) : one.invoker = other.invoker := by
  funext call
  rw [Stage.invoker, Stage.invoker, h.programs]

/-- Stages that agree reply alike. -/
theorem reply (h : Agree one other) (request : Request) :
    (one.serve request).1.apart = (other.serve request).1.apart := by
  cases request with
  | listCalls | wasCalled => rfl
  | registerTool | registerProgram | configure => rfl
  | lookUp | invoke | requirePath | queryVersion | check =>
    simp only [Stage.serve, respond, h.resolver, h.invoker, h.config]

/-- The step: stages that agree go on to do so. -/
theorem serve (h : Agree one other) (request : Request) :
    Agree (one.serve request).2 (other.serve request).2 where
  tools := by
    intro name
    cases request with
    | registerTool known tool =>
      have hOne := one.tools.find?_register known name tool
      have hOther := other.tools.find?_register known name tool
      rw [h.tools] at hOne
      exact hOne.trans hOther.symm
    | _ => exact h.tools name
  programs := by
    intro name
    cases request with
    | registerProgram known outcome =>
      have hOne := one.programs.find?_register known name outcome
      have hOther := other.programs.find?_register known name outcome
      rw [h.programs] at hOne
      exact hOne.trans hOther.symm
    | _ => exact h.programs name
  config := by
    cases request with
    | configure => rfl
    | _ => exact h.config

/-- The run: stages that agree cannot be told apart. -/
theorem indistinct (h : Agree one other) : Indistinct one other := by
  intro requests
  induction requests generalizing one other with
  | nil => rfl
  | cons request rest ih =>
    show (one.serve request).1.apart :: _ = (other.serve request).1.apart :: _
    rw [h.reply request, ih (h.serve request)]

end Agree

/-! ## Sessions -/

/-- Stages agree if they reflect pasts in which the same was settled last. -/
theorem Reflects.agree {initial start : Config} {past behind : List Request}
    {one other : Stage} (hOne : Reflects initial past one)
    (hOther : Reflects start behind other)
    (hTools : ∀ name, Session.latest (Request.tool? name) past
      = Session.latest (Request.tool? name) behind)
    (hPrograms : ∀ name, Session.latest (Request.outcome? name) past
      = Session.latest (Request.outcome? name) behind)
    (hConfig : Session.configAfter initial past
      = Session.configAfter start behind) : Agree one other where
  tools := by
    intro name
    rw [hOne.tools, hOther.tools, hTools]
  programs := by
    intro name
    rw [hOne.programs, hOther.programs, hPrograms]
  config := by
    rw [hOne.config, hOther.config, hConfig]

/-- It is enough to compare what was settled last on each matter. -/
theorem agree_of_latest (initial : Config) {past behind : List Request}
    (h : ∀ (α : Type) (settles : Request → Option α) (matter : Matter),
      Session.About matter settles →
      Session.latest settles past = Session.latest settles behind) :
    Agree ((opening initial).after past)
      ((opening initial).after behind) := by
  apply Reflects.agree ((reflects_opening initial).after past)
    ((reflects_opening initial).after behind)
  · intro name
    exact h _ _ _ (Session.about_tool name)
  · intro name
    exact h _ _ _ (Session.about_program name)
  · exact congrArg (·.getD initial) (h _ _ _ Session.about_config)

theorem after_append (stage : Stage) (requests rest : List Request) :
    stage.after (requests ++ rest) = (stage.after requests).after rest :=
  List.foldl_append

section Edits

variable (initial : Config) (past : List Request)

/-- Requests that settle nothing can be left out. -/
theorem agree_filter :
    Agree ((opening initial).after past)
      ((opening initial).after (past.filter (·.matter?.isSome))) := by
  apply agree_of_latest
  intro α settles matter hAbout
  apply Eq.symm
  apply Session.latest_filter
  intro request hSettled
  cases hMatter : request.matter? with
  | none => exact hAbout.eq_none hMatter
  | some _ =>
    rw [hMatter] at hSettled
    cases hSettled

/-- Requests that settle nothing leave things as they are. -/
theorem agree_after_idle {idle : List Request}
    (hIdle : ∀ request ∈ idle, request.matter? = none) :
    Agree (((opening initial).after past).after idle)
      ((opening initial).after past) := by
  rw [← after_append]
  apply agree_of_latest
  intro α settles matter hAbout
  apply Session.latest_append_of_forall
  intro request hMem
  exact hAbout.eq_none (hIdle request hMem)

/-- Requests on different matters can change places. -/
theorem agree_swap {first second : Request}
    (hMatters : first.matter? ≠ second.matter?) :
    Agree (((opening initial).after past).after [first, second])
      (((opening initial).after past).after [second, first]) := by
  rw [← after_append, ← after_append]
  apply agree_of_latest
  intro α settles matter hAbout
  apply Session.latest_swap
  by_cases hFirst : first.matter? = some matter
  · right
    apply (hAbout second).mpr
    rw [← hFirst]
    exact hMatters.symm
  · left
    exact (hAbout first).mpr hFirst

/-- A later request on the same matter takes the place of an earlier one. -/
theorem agree_replace {first second : Request}
    (hMatter : first.matter? = second.matter?) (between : List Request) :
    Agree (((opening initial).after past).after
        (first :: (between ++ [second])))
      (((opening initial).after past).after (between ++ [second])) := by
  rw [← after_append, ← after_append]
  apply agree_of_latest
  intro α settles matter hAbout
  apply Session.latest_replaced
  rw [ne_eq, hAbout, hAbout, hMatter]
  exact Classical.em _

end Edits

/--
Sessions are determined by what they settled last. If after two sessions each
name stands for the same and the configurations are the same, every further
request has the same reply and says the same on the way to it, after the one
as after the other, the record of calls aside.

So a request that settles nothing changes no later reply, and a check that is
repeated has the same outcome and says the same again. Requests on different
matters can change places, and a request replaces all that was said on its
matter before.
-/
theorem replies_determined :
    (∀ (initial start : Config) (past behind : List Request),
      (∀ name, Session.latest (Request.tool? name) past
        = Session.latest (Request.tool? name) behind) →
      (∀ name, Session.latest (Request.outcome? name) past
        = Session.latest (Request.outcome? name) behind) →
      Session.configAfter initial past
        = Session.configAfter start behind →
      Indistinct ((opening initial).after past)
        ((opening start).after behind)) ∧
    ∀ (initial : Config) (past : List Request),
      let stage := (opening initial).after past
      Indistinct stage
        ((opening initial).after (past.filter (·.matter?.isSome))) ∧
      (∀ between, (∀ request ∈ between, request.matter? = none) →
        (((stage.serve .check).2.after between).serve .check).1
          = (stage.serve .check).1) ∧
      (∀ first second, first.matter? ≠ second.matter? →
        Indistinct (stage.after [first, second])
          (stage.after [second, first])) ∧
      ∀ first second, first.matter? = second.matter? → ∀ between,
        Indistinct (stage.after (first :: (between ++ [second])))
          (stage.after (between ++ [second])) := by
  constructor
  · intro initial start past behind hTools hPrograms hConfig
    have hOne := (reflects_opening initial).after past
    have hOther := (reflects_opening start).after behind
    exact (hOne.agree hOther hTools hPrograms hConfig).indistinct
  · intro initial past stage
    refine ⟨(agree_filter initial past).indistinct, ?_, ?_, ?_⟩
    · intro between hIdle
      have hAgree : Agree (stage.after (.check :: between)) stage := by
        apply agree_after_idle
        intro request hMem
        cases List.mem_cons.mp hMem with
        | inl hCheck => exact congrArg Request.matter? hCheck
        | inr hBetween => exact hIdle request hBetween
      -- The reply to a check tells nothing of the record.
      exact hAgree.reply .check
    · intro first second hMatters
      exact (agree_swap initial past hMatters).indistinct
    · intro first second hMatter between
      exact (agree_replace initial past hMatter between).indistinct

/-- Two ways to a tool and an interpreter, only one of them with calls. -/
theorem replies_determined_whatever_was_called :
    let tool : ResolvedTool := ⟨Utf8.encode "/usr/bin/pg_config", true⟩
    let outcome : Captured := ⟨some 0, "Python 3.12.1", ""⟩
    let past : List Request := [.registerTool "pg_config" tool,
      .registerProgram "python" outcome, .check, .lookUp "ruby"]
    let behind : List Request := [.registerTool "pg_config" ⟨[], false⟩,
      .configure { Config.standard with interpreter := "ruby" },
      .registerProgram "python" outcome, .check,
      .registerTool "pg_config" tool, .configure .standard]
    ((opening .standard).after past).calls.length = 2 ∧
      ((opening .standard).after behind).calls = [] ∧
      Indistinct ((opening .standard).after past)
        ((opening .standard).after behind) := by
  intro tool outcome past behind
  refine ⟨by decide +kernel, by decide +kernel, ?_⟩
  apply replies_determined.1
  · intro name
    by_cases hName : "pg_config" = name <;>
      simp [past, behind, Session.latest, List.findSome?, Request.tool?, hName]
  · intro name
    simp [past, behind, Session.latest, List.findSome?, Request.outcome?]
  · rfl

end Stage

end Preflight
