import IppCode.Scanner

/-!
# Validation

A program is the header followed by instructions, one per line: an opcode and exactly the operands
of its signature, all on the opcode's line. The validator pulls tokens from a scanner as it needs
them and hands each instruction to a document builder once the instruction is known to be complete.
The first failure ends the run.

That an instruction is complete shows only in what follows it, so the token after it is pulled
already and held over in `Validator.pending` for the next round. Besides its result a run leaves a
record: all it pulled from the scanner, and the events it reported. Nothing in the validator reads
the record. It is kept so that statements about a run can say how far the run had looked into its
source when it was decided.

A run goes through phases (`Phase.advance`), one round after the other: a round for the header, a
round for each instruction, and a round for the end of the program. There is no bound on their
number in the definition of a run. It ends because every round leaves less to do
(`Phase.todo_advance_lt`): a round takes at least one token other than the end of the stream, or it
takes the end of the stream and is the last. For this, a token that is held over counts as not yet
taken (`Validator.remaining`).

Whether a token is on the line of its opcode is asked of the token itself (`Token.isOn`). The end of
the stream is on no line, whatever its line number is, and so it ends an instruction like the first
word of another line does.
-/

namespace IppCode

/-- The state of a run. The first three fields are what it goes on from; the last two are its
record. -/
structure Validator where
  /-- The scanner, behind all that has been pulled. -/
  scanner : Scanner
  /-- The token behind the last instruction, until it is examined. -/
  pending : Option Token
  /-- The number of instructions accepted so far. -/
  accepted : Nat
  /-- What was pulled from the scanner so far, in order. -/
  pulled : Array (Except Failure Token)
  /-- What was reported so far, in order. -/
  events : Array Event

/-- A part of a run: it changes the state and may end in a failure. A failure leaves the state as
well, with the record of what led to it. -/
abbrev Validation :=
  EStateM Failure Validator

/-- Two parts of a run succeed one after the other exactly when each does. All that is said about
successful parts of runs is taken apart with this. -/
theorem Validation.bind_eq_ok_iff {α β : Type} {x : Validation α} {f : α → Validation β}
    {v v' : Validator} {b : β} :
    (x >>= f) v = .ok b v' ↔ ∃ a w, x v = .ok a w ∧ f a w = .ok b v' := by
  show EStateM.bind x f v = .ok b v' ↔ _
  rw [EStateM.bind]
  cases h : x v with
  | ok a w =>
    exact ⟨fun hf ↦ ⟨a, w, rfl, hf⟩, fun ⟨_, _, heq, hf⟩ ↦ by cases heq; exact hf⟩
  | error failure w => simp

namespace Validator

/-- Before the first round: nothing is pulled, accepted or reported. -/
def ofSource (source : String) : Validator :=
  ⟨Scanner.ofSource source, none, 0, #[], #[]⟩

/-! ### Pulling tokens -/

/-- The state after one step of the scanner: the step goes into the record with its result and with
what there is to report about it, be it a token or a failure. -/
def record (reading : Scanner.Reading) (v : Validator) : Validator :=
  { v with
    scanner := reading.after
    pulled := v.pulled.push reading.result
    events := v.events ++ reading.event?.toArray }

/-- Pulls the next token from the scanner. This is the only place where the scanner of a run is
read. -/
def pull : Validation Token := fun v ↦
  let reading := v.scanner.read
  match reading.result with
  | .ok token => .ok token (v.record reading)
  | .error failure => .error failure (v.record reading)

/-- Takes the token that was held over, or else pulls the next one. -/
def take : Validation Token := fun v ↦
  match v.pending with
  | some token => .ok token { v with pending := none }
  | none => pull v

/-- Holds a token over for the next round, which takes it before it pulls anything. -/
def hold (token : Token) : Validation Unit :=
  modify fun v ↦ { v with pending := some token }

/-- Reports an event. -/
def report (event : Event) : Validation Unit :=
  modify fun v ↦ { v with events := v.events.push event }

/-! ### The header -/

/-- Accepts the header, which stands alone on the first line that has a word. Whether it stands
alone shows in the token after it. A failure of the scanner in the place of that token is passed on
as it is. -/
def expectHeader : Validation DocumentBuilder := do
  let token ← take
  match token.kind with
  | .header =>
    let next ← pull
    if next.isOn token.line then
      throw (.header (some token.line) (.notAlone next.kind.text))
    else
      hold next
      report (.headerAccepted token.line)
      return DocumentBuilder.begin Document.languageName
  | .endOfStream => throw (.header none .emptyProgram)
  | other => throw (.header (some token.line) (.missing other.text))

end Validator

/-! ### Instructions -/

/-- Accepts a token as the operand that a position, counted from 1, calls for. The name of a type is
a label as well, since names of types are not reserved. All other tokens are of one kind only, and a
constant or a label is checked here for the first time. -/
def Operand.ofToken (position : Nat) (kind : OperandKind) (found : TokenKind) :
    Except OperandFault Operand :=
  match kind, found with
  | .var, .var v => .ok (.var v)
  | .symb, .var v => .ok (.var v)
  | .symb, .constant lexeme =>
    match Constant.parse lexeme with
    | .ok value => .ok (.constant value)
    | .error fault => .error (.badConstant position fault)
  | .label, .label lexeme =>
    if isIdentifier lexeme then .ok (.label lexeme) else .error (.badLabel position lexeme)
  | .label, .type t => .ok (.label t.keyword)
  | .type, .type t => .ok (.type t)
  | kind, found => .error (.wrongKind position kind found.text)

namespace Validator

/-- Accepts the operands that are still called for, on the line of the opcode. There are `expected`
of them in all, and `found` have been accepted before; both numbers are for the diagnosis alone. -/
def expectOperands (line : Nat) (opcode : Opcode) (expected : Nat) (found : Nat) :
    List OperandKind → Validation (List Operand)
  | [] => return []
  | kind :: kinds => do
    let token ← pull
    if token.isOn line then
      match Operand.ofToken (found + 1) kind token.kind with
      | .ok operand =>
        let operands ← expectOperands line opcode expected (found + 1) kinds
        return operand :: operands
      | .error fault => throw (.operands line opcode fault)
    else throw (.operands line opcode (.tooFew expected found))

/-- Accepts the end of an instruction: the next token is not on its line. That token begins the next
line, so it is held over. -/
def expectLineEnd (line : Nat) (opcode : Opcode) : Validation Unit := do
  let next ← pull
  if next.isOn line then
    throw (.operands line opcode (.tooMany opcode.signature.arity next.kind.text))
  else hold next

/-- Gives an accepted instruction its number and hands it to the builder. A refusal is the end of
the run, so what it leaves of the builder is of no use to anyone. -/
def submit (line : Nat) (opcode : Opcode) (operands : List Operand)
    (builder : DocumentBuilder) : Validation DocumentBuilder := do
  modify fun v ↦ { v with accepted := v.accepted + 1 }
  let number := (← get).accepted
  report (.instructionAccepted line number opcode operands.length)
  match DocumentBuilder.append number opcode operands builder with
  | .ok _ longer => return longer
  | .error refusal _ => throw (.outOfSequence refusal)

/-- Accepts the instruction whose opcode stands on the given line: its operands, the end of its
line, and then its number. Nothing is handed to the builder before all of the line is known. -/
def expectInstruction (line : Nat) (opcode : Opcode) (builder : DocumentBuilder) :
    Validation DocumentBuilder := do
  let operands ← expectOperands line opcode opcode.signature.arity 0 opcode.operandKinds
  expectLineEnd line opcode
  submit line opcode operands builder

end Validator

/-! ### Rounds -/

/-- How far a run has come. Each phase has what its rounds build on. -/
inductive Phase
  /-- The header has not been accepted yet. -/
  | header
  /-- The header and the instructions of the builder have been accepted. -/
  | instructions (builder : DocumentBuilder)
  /-- The end of the program has been accepted. -/
  | finished (document : Document)

namespace Phase

/-- One round of a run. A round of a finished run does nothing. -/
def advance : Phase → Validation Phase
  | header => do
    let builder ← Validator.expectHeader
    return instructions builder
  | instructions builder => do
    let token ← Validator.take
    match token.kind with
    | .opcode op =>
      let longer ← Validator.expectInstruction token.line op builder
      return instructions longer
    | .endOfStream =>
      Validator.report (.programAccepted (← get).accepted)
      return finished builder.finish
    | other => throw (.badOpcode token.line other.text)
  | finished document => return finished document

end Phase

/-! ### Progress -/

namespace Validator

/-- How much is left: nothing once the end of the stream is held over. A token that is held over
counts with the text behind it, as if it had not been pulled yet. -/
def remaining (v : Validator) : Nat :=
  match v.pending with
  | some token => if token.isEnd then 0 else v.scanner.remaining + 1
  | none => v.scanner.remaining + 1

/-- What comes of a pull is what the scanner reads, and the reading goes into the record. -/
theorem pull_eq_ok_iff {v v' : Validator} {token : Token} :
    pull v = .ok token v' ↔
      v.scanner.read.result = .ok token ∧ v' = v.record v.scanner.read := by
  rw [pull]
  cases v.scanner.read.result <;> simp [eq_comm]

theorem remaining_pull_le {v v' : Validator} {token : Token} (h : pull v = .ok token v') :
    v'.scanner.remaining ≤ v.scanner.remaining := by
  obtain ⟨-, rfl⟩ := pull_eq_ok_iff.1 h
  exact Scanner.remaining_read_le v.scanner

theorem remaining_pull_lt {v v' : Validator} {token : Token} (h : pull v = .ok token v')
    (hend : token.isEnd = false) : v'.scanner.remaining < v.scanner.remaining := by
  obtain ⟨hok, rfl⟩ := pull_eq_ok_iff.1 h
  exact Scanner.remaining_read_lt_of_ok hok hend

theorem remaining_take_lt {v v' : Validator} {token : Token} (h : take v = .ok token v')
    (hend : token.isEnd = false) : v'.scanner.remaining < v.remaining := by
  rw [take] at h
  rw [remaining]
  split at h
  · cases h
    simp [hend]
  · have := remaining_pull_lt h hend
    omega

/-- The token behind a line is the end, or takes part of the text with it. -/
theorem remaining_hold_le {v w v' : Validator} {token : Token} (hpull : pull v = .ok token w)
    (h : hold token w = .ok () v') : v'.remaining ≤ v.scanner.remaining := by
  obtain rfl : { w with pending := some token } = v' := by cases h; rfl
  show (if token.isEnd then 0 else w.scanner.remaining + 1) ≤ _
  split
  · exact Nat.zero_le _
  · exact remaining_pull_lt hpull (by simpa using ‹¬ token.isEnd = true›)

theorem remaining_expectOperands_le {line : Nat} {opcode : Opcode} {expected : Nat} :
    ∀ {kinds : List OperandKind} {found : Nat} {v v' : Validator} {operands : List Operand},
      expectOperands line opcode expected found kinds v = .ok operands v' →
        v'.scanner.remaining ≤ v.scanner.remaining := by
  intro kinds
  induction kinds with
  | nil => rintro found v v' operands ⟨⟩; exact Nat.le_refl _
  | cons kind kinds ih =>
    intro found v v' operands h
    rw [expectOperands, Validation.bind_eq_ok_iff] at h
    obtain ⟨token, w, hpull, h⟩ := h
    split at h
    · cases hoperand : Operand.ofToken (found + 1) kind token.kind with
      | ok operand =>
        rw [hoperand] at h
        obtain ⟨rest, w', hrest, h⟩ := Validation.bind_eq_ok_iff.1 h
        cases h
        exact Nat.le_trans (ih hrest) (remaining_pull_le hpull)
      | error fault => rw [hoperand] at h; cases h
    · cases h

theorem remaining_expectLineEnd_le {line : Nat} {opcode : Opcode} {v v' : Validator}
    (h : expectLineEnd line opcode v = .ok () v') : v'.remaining ≤ v.scanner.remaining := by
  rw [expectLineEnd, Validation.bind_eq_ok_iff] at h
  obtain ⟨next, w, hpull, h⟩ := h
  split at h
  · cases h
  · exact remaining_hold_le hpull h

theorem remaining_submit {line : Nat} {opcode : Opcode} {operands : List Operand}
    {builder longer : DocumentBuilder} {v v' : Validator}
    (h : submit line opcode operands builder v = .ok longer v') :
    v'.remaining = v.remaining := by
  simp only [submit, Validation.bind_eq_ok_iff] at h
  obtain ⟨_, w₁, hw₁, s, w₂, hw₂, _, w₃, hw₃, h⟩ := h
  cases hw₁
  cases hw₂
  cases hw₃
  rcases happend : DocumentBuilder.append (v.accepted + 1) opcode operands builder with
    ⟨_, longer⟩ | ⟨refusal, left⟩
  · rw [happend] at h
    cases h
    rfl
  · rw [happend] at h
    cases h

theorem remaining_expectInstruction_le {line : Nat} {opcode : Opcode}
    {builder longer : DocumentBuilder} {v v' : Validator}
    (h : expectInstruction line opcode builder v = .ok longer v') :
    v'.remaining ≤ v.scanner.remaining := by
  simp only [expectInstruction, Validation.bind_eq_ok_iff] at h
  obtain ⟨operands, w₁, hoperands, _, w₂, hend, h⟩ := h
  rw [remaining_submit h]
  exact Nat.le_trans (remaining_expectLineEnd_le hend) (remaining_expectOperands_le hoperands)

theorem remaining_expectHeader_le {builder : DocumentBuilder} {v v' : Validator}
    (h : expectHeader v = .ok builder v') : v'.remaining ≤ v.remaining := by
  rw [expectHeader, Validation.bind_eq_ok_iff] at h
  obtain ⟨token, w, htake, h⟩ := h
  cases hkind : token.kind with
  | header =>
    simp only [hkind] at h
    obtain ⟨next, w₁, hpull, h⟩ := Validation.bind_eq_ok_iff.1 h
    split at h
    · cases h
    · simp only [Validation.bind_eq_ok_iff] at h
      obtain ⟨_, w₂, hhold, _, w₃, hreport, h⟩ := h
      have hle := remaining_hold_le hpull hhold
      have hlt := remaining_take_lt htake (by simp [Token.isEnd, hkind])
      cases h
      cases hreport
      exact Nat.le_trans hle (Nat.le_of_lt hlt)
  | _ => simp only [hkind] at h; cases h

end Validator

namespace Phase

/-- How much a run in this phase and state still has to do. The two phases with rounds to come count
one each, beside what is left of the source. -/
def todo : Phase → Validator → Nat
  | header, v => v.remaining + 2
  | instructions _, v => v.remaining + 1
  | finished _, _ => 0

/-- The run is over. -/
def isFinished : Phase → Bool
  | finished _ => true
  | _ => false

/-- Every round of an unfinished run leaves less to do. The last round takes nothing but the end,
which counts for nothing once it is held over; this is why the phases are counted as well. -/
theorem todo_advance_lt {phase phase' : Phase} {v v' : Validator}
    (h : phase.advance v = .ok phase' v') (hphase : phase.isFinished = false) :
    phase'.todo v' < phase.todo v := by
  cases phase with
  | header =>
    rw [advance, Validation.bind_eq_ok_iff] at h
    obtain ⟨builder, w, hheader, h⟩ := h
    have := Validator.remaining_expectHeader_le hheader
    cases h
    simp only [todo]
    omega
  | instructions builder =>
    rw [advance, Validation.bind_eq_ok_iff] at h
    obtain ⟨token, w, htake, h⟩ := h
    cases hkind : token.kind with
    | opcode op =>
      simp only [hkind] at h
      obtain ⟨longer, w', hinstruction, h⟩ := Validation.bind_eq_ok_iff.1 h
      have := Validator.remaining_expectInstruction_le hinstruction
      have := Validator.remaining_take_lt htake (by simp [Token.isEnd, hkind])
      cases h
      simp only [todo]
      omega
    | endOfStream =>
      simp only [hkind, Validation.bind_eq_ok_iff] at h
      obtain ⟨_, _, _, _, _, _, h⟩ := h
      cases h
      exact Nat.succ_pos _
    | _ => simp only [hkind] at h; cases h
  | finished document => cases hphase

end Phase

/-! ### Runs -/

namespace Validator

/-- Goes through the remaining phases of a run, until it is finished or a round fails. -/
def runFrom (phase : Phase) (v : Validator) : EStateM.Result Failure Validator Document :=
  match _hphase : phase with
  | .finished document => .ok document v
  | .header | .instructions _ =>
    match _h : phase.advance v with
    | .ok phase' v' => runFrom phase' v'
    | .error failure v' => .error failure v'
termination_by phase.todo v
decreasing_by
  all_goals
    subst _hphase
    exact Phase.todo_advance_lt _h rfl

end Validator

/-- What a run leaves behind: its result, what it pulled from the scanner, and what it
reported. -/
structure Validation.Record where
  /-- The document, or the first failure. -/
  result : Except Failure Document
  /-- All that was pulled from the scanner, in order. The failure of a scanner is the last of it. -/
  pulled : List (Except Failure Token)
  /-- All that was reported, in order. -/
  events : List Event

namespace Validator

/-- Validates a whole program, and keeps the record. `validate` is what it says of the program. -/
def run (source : String) : Validation.Record :=
  match runFrom .header (ofSource source) with
  | .ok document v => ⟨.ok document, v.pulled.toList, v.events.toList⟩
  | .error failure v => ⟨.error failure, v.pulled.toList, v.events.toList⟩

end Validator

/-- The document of a program, or the first failure found in it. -/
def validate (source : String) : Except Failure Document :=
  (Validator.run source).result

end IppCode
