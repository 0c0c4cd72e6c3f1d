import Preflight.Failure

/-!
# Where a report goes

A sink takes bytes until it is full. A piece that does not fit is taken as
far as there is room and then refused; a piece that fits, above all the
empty one, is never refused.

## Main results

* `Sink.accept_unlimited` — a sink without a limit takes every piece.
-/

namespace Preflight

/-- A place to write to, with what was written there. -/
structure Sink where
  /-- How many bytes it takes in all, or `none` for any number. -/
  limit : Option Nat
  /-- What it says when it is full. -/
  refusal : String
  /-- What it has taken. -/
  written : Bytes

namespace Sink

/-- An empty sink that takes everything. -/
def unlimited : Sink := ⟨none, "", []⟩

/-- An empty sink that takes `limit` bytes and then says `refusal`. -/
def ofLimit (limit : Nat) (refusal : String) : Sink :=
  ⟨some limit, refusal, []⟩

/-- Whether a piece fits whole. -/
def fits (sink : Sink) (piece : Bytes) : Bool :=
  match sink.limit with
  | none => true
  | some limit => sink.written.length + piece.length ≤ limit

/-- The sink after it took what it can of a piece. -/
def accept (sink : Sink) (piece : Bytes) : Sink :=
  { sink with
    written := sink.written ++
      match sink.limit with
      | none => piece
      | some limit => piece.take (limit - sink.written.length) }

theorem accept_unlimited (sink : Sink) (h : sink.limit = none)
    (piece : Bytes) :
    sink.accept piece = { sink with written := sink.written ++ piece } := by
  simp [accept, h]

/-- Writes pieces one after another, up to the first that is refused. -/
def write (sink : Sink) : List String → Except Failure Unit × Sink
  | [] => (.ok (), sink)
  | piece :: rest =>
    let bytes := Utf8.encode piece
    if sink.fits bytes then (sink.accept bytes).write rest
    else (.error (.io sink.refusal), sink.accept bytes)

end Sink

end Preflight
