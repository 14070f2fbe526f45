import IppCode.Document.Markup
import IppCode.Failure

/-!
# Sinks

Where a document goes. A `Sink` takes some of the bytes offered to it and says how many, or refuses
with an error; `Sink.writeAll` offers what is left until nothing is, and gives up on an error or
when no byte is accepted. An interruption is no such error: what was interrupted is tried again,
without end if need be. A document is written whole and then flushed once, and it is not flushed if
it could not be written.

For this reason `Sink.writeAll` is a partial fixpoint and not a recursion with a measure: nothing
keeps a sink from interrupting every offer.

`Quota` describes a sink that takes a limited number of bytes, at once and in all.
-/

namespace IppCode

/-- A sink with states `σ`. What it has taken shows in its state, as far as the sink remembers. -/
structure Sink (σ : Type) where
  /-- Offers bytes; the answer is how many of them were taken, from the front. -/
  write : ByteArray → σ → Except TransferError Nat × σ
  /-- Makes sure of what has been taken. -/
  flush : σ → Except TransferError Unit × σ

namespace Sink

variable {σ : Type}

/-- Offers the bytes until all are taken. An empty offer is never made: without bytes, nothing is
written, and an answer of no bytes means that the sink takes no more. -/
def writeAll (sink : Sink σ) (bytes : ByteArray) (state : σ) : Except TransferError Unit × σ :=
  if bytes.size = 0 then (.ok (), state)
  else match sink.write bytes state with
    | (.error error, after) =>
      if error.isInterruption then sink |>.writeAll bytes after else (.error error, after)
    | (.ok 0, after) => (.error .writeZero, after)
    | (.ok (n + 1), after) => sink |>.writeAll (bytes.extract (n + 1) bytes.size) after
partial_fixpoint

/-- Writes all the bytes, and then flushes. An error of either ends it. -/
def send (sink : Sink σ) (bytes : ByteArray) (state : σ) : Except TransferError Unit × σ :=
  match sink.writeAll bytes state with
  | (.ok (), after) => sink.flush after
  | (.error error, after) => (.error error, after)

end Sink

/-- Writes the document to a sink, which the target names. The target is for the failure only. -/
def Document.writeTo {σ : Type} (document : Document) (sink : Sink σ) (target : Target)
    (state : σ) : Except Failure Unit × σ :=
  match sink.send document.render.toUTF8 state with
  | (.ok (), after) => (.ok (), after)
  | (.error error, after) => (.error (.transfer .write target error), after)

/-! ### Sinks with a quota -/

/-- What a limited sink allows. -/
structure Quota where
  /-- The most bytes taken at once. -/
  chunk : Nat
  /-- The most bytes taken in all. -/
  limit? : Option Nat
  /-- The error beyond the limit; without one, no byte is taken there. -/
  refusal? : Option TransferError
  /-- The error with which flushing fails. -/
  flushError? : Option TransferError

/-- What a limited sink has taken, and how often it was flushed. -/
structure Tally where
  /-- All bytes that were taken, in order. -/
  written : ByteArray
  /-- How often the sink was flushed. -/
  flushes : Nat

/-- Before anything is written. -/
def Tally.zero : Tally :=
  ⟨ByteArray.empty, 0⟩

namespace Quota

/-- The most bytes that are taken at once in the given state. -/
def room (quota : Quota) (tally : Tally) : Nat :=
  match quota.limit? with
  | some limit => min quota.chunk (limit - tally.written.size)
  | none => quota.chunk

/-- The sink that a quota describes: it takes what there is room for, and beyond the limit it takes
nothing or refuses. -/
def sink (quota : Quota) : Sink Tally where
  write bytes tally :=
    let n := min bytes.size (quota.room tally)
    match n, quota.refusal? with
    | 0, some error => (.error error, tally)
    | n, _ => (.ok n, { tally with written := tally.written ++ bytes.extract 0 n })
  flush tally :=
    let after := { tally with flushes := tally.flushes + 1 }
    match quota.flushError? with
    | some error => (.error error, after)
    | none => (.ok (), after)

end Quota

end IppCode
