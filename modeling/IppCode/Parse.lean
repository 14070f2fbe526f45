import IppCode.Validator

/-!
# Parsing

From a source to a document: the source may be a text, bytes that have to be UTF-8 first, or
whatever a reader delivered. Each gives an `Outcome`, the result together with the events of
the run. The three agree: bytes that encode a text are parsed as that text, and a delivery as
its bytes.

Only a text is examined, so an outcome has a scope exactly if it came to a text: a source that
could not be read, or not decoded, fails before its examination begins.
-/

namespace IppCode

/-- How a run ended, and what it reported on the way, in order. -/
structure Outcome where
  /-- The document, or the first failure. -/
  result : Except Failure Document
  /-- What the inner events were reported within, if the source was examined at all. -/
  scope? : Option Scope
  events : List Event

/-- The outcome with an event in front. -/
def Outcome.after (event : Event) (outcome : Outcome) : Outcome :=
  { outcome with events := event :: outcome.events }

/-- Parses a program held as text. -/
def parseSource (source : String) : Outcome :=
  let record := Validator.run source
  ⟨record.result, some ⟨source.utf8ByteSize⟩, record.events⟩

/-- The line, counted from 1, of the byte at the given offset. -/
def lineAt (bytes : ByteArray) (offset : Nat) : Nat :=
  1 + (bytes.data.toList.take offset).count 0x0A

/-- Parses a program held as bytes, which come from the target. -/
def parseBytes (bytes : ByteArray) (target : Target) : Outcome :=
  Outcome.after (.sourceRead bytes.size target) <|
    match Utf8.decode bytes with
    | .ok source => parseSource source
    | .error fault => ⟨.error (.lexical (lineAt bytes fault.index) (.notUtf8 fault)), none, []⟩

/-- Parses what was read from the target, if it could be read. -/
def parseInput (input : Except TransferError ByteArray) (target : Target) : Outcome :=
  match input with
  | .ok bytes => parseBytes bytes target
  | .error error => ⟨.error (.transfer .read target error), none, []⟩

end IppCode
