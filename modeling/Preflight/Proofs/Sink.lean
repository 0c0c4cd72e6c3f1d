import Preflight.Report

/-!
# What reaches a sink

A report is written in pieces, and a sink may become full inside a piece or
between two. The pieces turn out not to matter: writing them one after
another does what writing all their bytes in one go would do (`Sink.put`),
as long as the sink does not hold more than it may at the start. So what a
full sink keeps is a front of what an unlimited one would have got, and
whether it refuses depends on nothing but the number of bytes.

`CutAt` says this of two writers, one into an unlimited sink and one into a
sink with a limit, and is handed on by everything that is done with the
result of a writer.

## Main results

* `Sink.write_eq_put` — pieces are written as one.
* `cutAt_write` — a sink with a limit keeps the front, and refuses exactly
  when there is more.
* `Report.cutAt_writeText`, `Report.cutAt_writeJson`,
  `RequiredTool.cutAt_writeDiagnostic` — hence so with every report.
-/

namespace Preflight

namespace Sink

/-! ## One go instead of pieces -/

/-- The bytes of several pieces. -/
def bytesOf (pieces : List String) : Bytes := pieces.flatMap Utf8.encode

@[simp] theorem bytesOf_nil : bytesOf [] = [] := rfl

@[simp] theorem bytesOf_cons (piece : String) (rest : List String) :
    bytesOf (piece :: rest) = Utf8.encode piece ++ bytesOf rest := rfl

/-- Writes bytes in one go. -/
def put (sink : Sink) (bytes : Bytes) : Except Failure Unit × Sink :=
  (if sink.fits bytes then .ok () else .error (.io sink.refusal),
    sink.accept bytes)

/-- A sink that holds no more than it may. -/
def Sound (sink : Sink) : Prop :=
  ∀ limit, sink.limit = some limit → sink.written.length ≤ limit

theorem sound_of_unlimited {sink : Sink} (h : sink.limit = none) :
    sink.Sound := by
  intro limit hLimit
  rw [h] at hLimit
  cases hLimit

theorem sound_ofLimit (limit : Nat) (refusal : String) :
    (ofLimit limit refusal).Sound := by
  intro _ _
  exact Nat.zero_le _

theorem fits_nil {sink : Sink} (h : sink.Sound) : sink.fits [] = true := by
  unfold fits
  cases hLimit : sink.limit with
  | none => rfl
  | some limit => simpa using h limit hLimit

theorem accept_nil (sink : Sink) : sink.accept [] = sink := by
  obtain ⟨limit, refusal, written⟩ := sink
  cases limit <;> simp [accept]

/-- What fits leaves a sink that holds no more than it may. -/
theorem sound_accept {sink : Sink} {piece : Bytes}
    (h : sink.fits piece = true) : (sink.accept piece).Sound := by
  intro limit hLimit
  have hLimit' : sink.limit = some limit := hLimit
  simp only [fits, hLimit', decide_eq_true_eq] at h
  simp only [accept, hLimit', List.length_append, List.length_take]
  omega

/-- Bytes behind a piece that fits fit if all of them fit together. -/
theorem fits_append {sink : Sink} {piece : Bytes}
    (h : sink.fits piece = true) (rest : Bytes) :
    sink.fits (piece ++ rest) = (sink.accept piece).fits rest := by
  cases hLimit : sink.limit with
  | none => simp [fits, accept, hLimit]
  | some limit =>
    simp only [fits, hLimit, decide_eq_true_eq] at h
    simp only [fits, accept, hLimit, List.length_append]
    rw [List.take_of_length_le (by omega), Nat.add_assoc]

theorem accept_append {sink : Sink} {piece : Bytes}
    (h : sink.fits piece = true) (rest : Bytes) :
    sink.accept (piece ++ rest) = (sink.accept piece).accept rest := by
  cases hLimit : sink.limit with
  | none => simp [accept, hLimit]
  | some limit =>
    simp only [fits, hLimit, decide_eq_true_eq] at h
    simp only [accept, hLimit, List.length_append, Sink.mk.injEq, true_and]
    rw [List.take_append, List.take_of_length_le (l := piece) (by omega),
      List.append_assoc, Nat.sub_sub]

/-- Behind a piece that does not fit nothing more is taken. -/
theorem accept_append_of_not_fits {sink : Sink} {piece : Bytes}
    (h : sink.fits piece = false) (rest : Bytes) :
    sink.fits (piece ++ rest) = false ∧
      sink.accept (piece ++ rest) = sink.accept piece := by
  cases hLimit : sink.limit with
  | none => simp [fits, hLimit] at h
  | some limit =>
    simp only [fits, hLimit, decide_eq_false_iff_not, Nat.not_le] at h
    constructor
    · simp only [fits, hLimit, List.length_append, decide_eq_false_iff_not]
      omega
    · simp only [accept, hLimit]
      rw [List.take_append_of_le_length (by omega)]

/-- Pieces are written as if they were one. -/
theorem write_eq_put {sink : Sink} (h : sink.Sound) (pieces : List String) :
    sink.write pieces = sink.put (bytesOf pieces) := by
  induction pieces generalizing sink with
  | nil => simp [write, put, fits_nil h, accept_nil]
  | cons piece rest ih =>
    rw [write, bytesOf_cons]
    cases hFits : sink.fits (Utf8.encode piece) with
    | true =>
      rw [if_pos rfl, ih (sound_accept hFits), put, put,
        fits_append hFits, accept_append hFits]
      rfl
    | false =>
      obtain ⟨hRest, hAccept⟩ :=
        accept_append_of_not_fits hFits (bytesOf rest)
      rw [if_neg (by decide), put, hRest, hAccept]
      rfl

theorem write_of_unlimited {sink : Sink} (h : sink.limit = none)
    (pieces : List String) :
    sink.write pieces
      = (.ok (), { sink with written := sink.written ++ bytesOf pieces }) := by
  rw [write_eq_put (sound_of_unlimited h), put, accept_unlimited sink h]
  simp [fits, h]

theorem write_ofLimit (limit : Nat) (refusal : String)
    (pieces : List String) :
    (ofLimit limit refusal).write pieces
      = (if (bytesOf pieces).length ≤ limit then .ok ()
          else .error (.io refusal),
        ⟨some limit, refusal, (bytesOf pieces).take limit⟩) := by
  rw [write_eq_put (sound_ofLimit limit refusal)]
  simp [put, fits, accept, ofLimit]

end Sink

/-! ## A sink that becomes full -/

section Cut

variable {α β : Type}

/--
`part` is what becomes of `whole`, which went to an unlimited sink, in a
sink that takes `limit` bytes in all and then says `refusal`.
-/
structure CutAt (limit : Nat) (refusal : String)
    (whole part : Except Failure α × Sink) : Prop where
  /-- The front of what was written is there, and nothing else. -/
  written : ∀ value, whole.1 = .ok value →
    part.2.written = whole.2.written.take limit
  /-- The outcome is the same exactly if everything fits. -/
  ok_iff : ∀ value, whole.1 = .ok value →
    (part.1 = .ok value ↔ whole.2.written.length ≤ limit)
  /-- Otherwise the refusal of the sink is the outcome. -/
  refused : ∀ value, whole.1 = .ok value →
    limit < whole.2.written.length → part.1 = .error (.io refusal)
  /-- What fails without a limit fails as well, before anything is written. -/
  failed : ∀ failure, whole.1 = .error failure →
    part.1 = .error failure ∧ part.2.written = []

variable {limit : Nat} {refusal : String}

theorem CutAt.of_ok {value : α} {whole : Sink}
    {part : Except Failure α × Sink}
    (hPart : part.1 = if whole.written.length ≤ limit then .ok value
      else .error (.io refusal))
    (hWritten : part.2.written = whole.written.take limit) :
    CutAt limit refusal (.ok value, whole) part := by
  constructor
  · intro _ _
    exact hWritten
  · rintro _ ⟨⟩
    rw [hPart]
    split <;> simp_all
  · intro _ _ hMore
    rw [hPart, if_neg (Nat.not_le.mpr hMore)]
  · intro failure hFailure
    cases hFailure

theorem CutAt.of_error {failure : Failure} {whole : Sink}
    {part : Except Failure α × Sink} (hPart : part.1 = .error failure)
    (hWritten : part.2.written = []) :
    CutAt limit refusal (.error failure, whole) part := by
  constructor
  · intro _ hValue
    cases hValue
  · intro _ hValue
    cases hValue
  · intro _ hValue
    cases hValue
  · rintro _ ⟨⟩
    exact ⟨hPart, hWritten⟩

/-- Another value in place of the one that a writer gives changes nothing. -/
theorem CutAt.map {whole part : Except Failure α × Sink}
    (h : CutAt limit refusal whole part) (f : α → β) :
    CutAt limit refusal (whole.1.map f, whole.2) (part.1.map f, part.2) := by
  obtain ⟨outcome, sink⟩ := whole
  cases outcome with
  | error failure =>
    obtain ⟨hPart, hWritten⟩ := h.failed failure rfl
    exact .of_error (by rw [hPart]; rfl) hWritten
  | ok value =>
    refine .of_ok ?_ (h.written value rfl)
    by_cases hFits : sink.written.length ≤ limit
    · rw [(h.ok_iff value rfl).mpr hFits, if_pos hFits]
      rfl
    · rw [h.refused value rfl (Nat.not_le.mp hFits), if_neg hFits]
      rfl

/-- A sink with a limit keeps the front of what is written to it in pieces. -/
theorem cutAt_write (limit : Nat) (refusal : String) (pieces : List String) :
    CutAt limit refusal (Sink.unlimited.write pieces)
      ((Sink.ofLimit limit refusal).write pieces) := by
  have hWhole : Sink.unlimited.write pieces
      = (.ok (), ⟨none, "", Sink.bytesOf pieces⟩) :=
    Sink.write_of_unlimited rfl pieces
  rw [hWhole, Sink.write_ofLimit]
  exact .of_ok rfl rfl

end Cut

/-! ## Reports -/

theorem Report.cutAt_writeText (limit : Nat) (refusal : String)
    (report : Report) :
    CutAt limit refusal (report.writeText .unlimited)
      (report.writeText (.ofLimit limit refusal)) :=
  cutAt_write limit refusal report.textPieces

theorem Report.cutAt_writeJson (limit : Nat) (refusal : String)
    (report : Report) :
    CutAt limit refusal (report.writeJson .unlimited)
      (report.writeJson (.ofLimit limit refusal)) := by
  unfold Report.writeJson
  cases report.json? with
  | none => exact .of_error rfl rfl
  | some json => exact cutAt_write limit refusal [json, "\n"]

theorem RequiredTool.cutAt_writeDiagnostic (limit : Nat) (refusal : String)
    (tool : RequiredTool) :
    CutAt limit refusal (tool.writeDiagnostic .unlimited)
      (tool.writeDiagnostic (.ofLimit limit refusal)) :=
  cutAt_write limit refusal tool.diagnosticPieces

end Preflight
