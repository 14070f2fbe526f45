import IppCode.Proofs.Scan.Bounds
import IppCode.Proofs.Validation.Report

/-!
# How long a run takes

A run goes round once for each phase that it comes to, up to the one in which it ends
(`Phase.Rounds`). All rounds but the first and the last two hand an instruction over to the builder,
so there are no more rounds than instructions, and three (`Phase.Rounds.exists_last`). The
instructions of a failing run are lost with its builder; which they were can still be told by what
was reported (`Handed`).

In a round all parts but one leave alone what was handed over (`Validation.Keeps`); the one is
`Validator.submit`, and no round fails behind it. So a failing round hands nothing over, and what
was handed over when the run ends is what its last phase had.

The bound on what is pulled does not come from the rounds. A run pulls a beginning of the scan
(`Validator.pulled_prefix_scan`), and how long a scan is depends on the words and the control
characters of the source only. Both bounds together say that the time of a run is proportional to
what is in the source: a comment or a run of blanks costs nothing but being read.
-/

namespace IppCode

/-! ### What was handed over

The builder of a failing run is not there any more when the run is over, but its instructions have
been counted and reported, and so can be found. -/

/-- The instructions are those that the run has counted, and has reported, so far. -/
structure Handed (instructions : List Instruction) (v : Validator) : Prop where
  /-- The number that the run has counted to. -/
  accepted : v.accepted = instructions.length
  /-- What it has reported of each of them, in order. -/
  reported : v.events.toList.filterMap Event.instruction? = instructions.map Instruction.outline

/-- A step of the scanner reports no instruction. -/
theorem Scanner.instruction?_of_read {scanner : Scanner} {event : Event}
    (h : scanner.read.event? = some event) : event.instruction? = none := by
  rw [read] at h
  split at h
  · cases h
  split at h
  · rename_i item behind _
    rw [readLexeme] at h
    split at h
    · cases h
      rfl
    · cases h
  · cases h
    rfl

namespace Validator

variable {v : Validator} {instructions : List Instruction} {builder : DocumentBuilder}

/-! ### Parts of a round that hand nothing over

One lemma for each part, put together by `Validation.Keeps.bind`. None of them depends on whether
the part succeeds. -/

/-- An event that is no instruction changes nothing. -/
theorem report_keeps {event : Event} (h : event.instruction? = none) :
    (report event).Keeps (Handed instructions) := by
  intro v hv
  refine ⟨hv.accepted, ?_⟩
  show (v.events.push event).toList.filterMap _ = _
  rw [Array.toList_push, List.filterMap_append, hv.reported, List.filterMap_cons_none h,
    List.filterMap_nil, List.append_nil]

theorem hold_keeps (token : Token) : (hold token).Keeps (Handed instructions) :=
  fun _ hv ↦ ⟨hv.accepted, hv.reported⟩

/-- What is reported of a token is no instruction. -/
theorem pull_keeps : pull.Keeps (Handed instructions) := by
  intro v hv
  have hrecord : Handed instructions (v.record v.scanner.read) := by
    refine ⟨hv.accepted, ?_⟩
    rcases hevent : v.scanner.read.event? with - | event
    · simp [record, hevent, hv.reported]
    · simp [record, hevent, hv.reported, Scanner.instruction?_of_read hevent]
  rw [Validation.Yields, pull]
  rcases v.scanner.read.result with failure | token <;> exact hrecord

/-- A token that is held over was reported before. -/
theorem take_keeps : take.Keeps (Handed instructions) := by
  intro v hv
  rw [Validation.Yields, take]
  rcases v.pending with - | token
  · exact pull_keeps v hv
  · exact ⟨hv.accepted, hv.reported⟩

/-- Operands are not reported apart from their tokens. -/
theorem expectOperands_keeps (line : Nat) (opcode : Opcode) (expected found : Nat)
    (kinds : List OperandKind) :
    (expectOperands line opcode expected found kinds).Keeps (Handed instructions) := by
  induction kinds generalizing found with
  | nil =>
    rw [expectOperands]
    exact .pure []
  | cons kind kinds ih =>
    rw [expectOperands]
    refine pull_keeps.bind fun token ↦ ?_
    split
    · rcases Operand.ofToken (found + 1) kind token.kind with fault | operand
      · exact .throw _
      · exact (ih (found + 1)).bind fun operands ↦ .pure _
    · exact .throw _

theorem expectLineEnd_keeps (line : Nat) (opcode : Opcode) :
    (expectLineEnd line opcode).Keeps (Handed instructions) := by
  rw [expectLineEnd]
  refine pull_keeps.bind fun next ↦ ?_
  split
  · exact .throw _
  · exact hold_keeps next

/-! ### Rounds that hand instructions over

The two parts behind which a builder is there that was not before. -/

/-- Behind the header an empty builder is there. -/
theorem expectHeader_hands (h : Handed [] v) :
    expectHeader.Yields v (fun builder w ↦ builder.instructions = #[] ∧ Handed [] w)
      fun _ w ↦ Handed [] w := by
  rw [expectHeader]
  refine (take_keeps v h).bind fun token w hw ↦ ?_
  rcases token.kind with - | op | _ | _ | _ | _ | -
  case header =>
    refine (pull_keeps w hw).bind fun next w₁ hw₁ ↦ ?_
    split
    · exact hw₁
    · refine (hold_keeps next w₁ hw₁).bind fun _ w₂ hw₂ ↦ ?_
      exact (report_keeps rfl w₂ hw₂).bind fun _ w₃ hw₃ ↦ ⟨rfl, hw₃⟩
  all_goals exact hw

/-- The builder takes one more instruction. -/
theorem submit_hands (h : Handed builder.instructions.toList v) (line : Nat) (opcode : Opcode)
    (operands : List Operand) :
    (submit line opcode operands builder).Yields v
      (fun longer w ↦ longer.instructions.size = builder.instructions.size + 1 ∧
        Handed longer.instructions.toList w)
      fun _ w ↦ Handed builder.instructions.toList w := by
  rw [Validation.Yields, submit_eq h.accepted]
  refine ⟨Array.size_push _, ?_, ?_⟩
  · rw [DocumentBuilder.push_instructions, Array.toList_push, List.length_append, ← h.accepted]
    rfl
  · rw [DocumentBuilder.push_instructions, Array.toList_push, Array.toList_push,
      List.filterMap_append, h.reported, List.map_append, List.map_singleton,
      Instruction.outline_ofOperands]
    rfl

/-- The instruction is handed over last. -/
theorem expectInstruction_hands (h : Handed builder.instructions.toList v) (line : Nat)
    (opcode : Opcode) :
    (expectInstruction line opcode builder).Yields v
      (fun longer w ↦ longer.instructions.size = builder.instructions.size + 1 ∧
        Handed longer.instructions.toList w)
      fun _ w ↦ Handed builder.instructions.toList w := by
  rw [expectInstruction]
  refine (expectOperands_keeps _ _ _ _ _ v h).bind fun operands w hw ↦ ?_
  refine (expectLineEnd_keeps _ _ w hw).bind fun _ w₁ hw₁ ↦ ?_
  exact submit_hands hw₁ line opcode operands

end Validator

/-! ### Rounds

Rounds are counted along a run. Once there is a builder, each phase has one more instruction than
the one before it, up to the last. -/

/-- The state that a run ends in, whether it succeeds or fails. -/
def Validator.finalState : EStateM.Result Failure Validator Document → Validator
  | .ok _ w => w
  | .error _ w => w

/-- What a run has reported in the end is its record. -/
theorem Validator.events_run (source : String) :
    (run source).events = (finalState (runFrom .header (ofSource source))).events.toList := by
  rw [run]
  rcases runFrom .header (ofSource source) with ⟨document, w⟩ | ⟨failure, w⟩ <;> rfl

namespace Phase

open Validator

/-- The instructions that the builder has in the phase. -/
def appended : Phase → List Instruction
  | header => []
  | instructions builder => builder.instructions.toList
  | finished document => document.instructions

/-- How many rounds come before the phase: the one for the header, one for each instruction, and the
one that comes upon the end. -/
def roundsBefore : Phase → Nat
  | header => 0
  | instructions builder => builder.instructions.size + 1
  | finished document => document.instructions.length + 2

/-- At most two rounds hand nothing over. -/
theorem roundsBefore_le (phase : Phase) : phase.roundsBefore ≤ phase.appended.length + 2 := by
  rcases phase with - | builder | document
  · exact Nat.zero_le _
  · exact Nat.le_succ _
  · exact Nat.le_refl _

/-- A round hands over what its next phase has more, and nothing if it fails. -/
theorem advance_hands {phase : Phase} {v : Validator} (hphase : phase.isFinished = false)
    (h : Handed phase.appended v) :
    phase.advance.Yields v
      (fun next w ↦ next.roundsBefore = phase.roundsBefore + 1 ∧ Handed next.appended w)
      fun _ w ↦ Handed phase.appended w := by
  rcases phase with - | builder | document
  · rw [advance]
    refine (expectHeader_hands h).bind ?_
    rintro builder w ⟨hempty, hw⟩
    show builder.instructions.size + 1 = 1 ∧ Handed builder.instructions.toList w
    rw [hempty]
    exact ⟨rfl, hw⟩
  · rw [advance]
    refine (take_keeps v h).bind fun token w hw ↦ ?_
    rcases token.kind with - | op | _ | _ | _ | _ | -
    case opcode =>
      refine (expectInstruction_hands hw token.line op).bind ?_
      rintro longer w₁ ⟨hsize, hw₁⟩
      exact ⟨congrArg (· + 1) hsize, hw₁⟩
    case endOfStream => exact ⟨rfl, report_keeps rfl w hw⟩
    all_goals exact hw
  · cases hphase

/-- From the phase on, in the state, a run goes round once in each of the phases, and ends with the
result. -/
inductive Rounds :
    Phase → Validator → List Phase → EStateM.Result Failure Validator Document → Prop
  /-- In a finished phase there is one more round, in which the document is returned. -/
  | finished (document : Document) (v : Validator) :
    Rounds (finished document) v [finished document] (.ok document v)
  /-- A round that fails is the last one. -/
  | failed {phase : Phase} {v w : Validator} {failure : Failure}
    (hphase : phase.isFinished = false) (hround : phase.advance v = .error failure w) :
    Rounds phase v [phase] (.error failure w)
  /-- A round that passes is followed by those of the next phase. -/
  | passed {phase next : Phase} {v w : Validator} {phases : List Phase}
    {result : EStateM.Result Failure Validator Document} (hphase : phase.isFinished = false)
    (hround : phase.advance v = .ok next w) (hnext : Rounds next w phases result) :
    Rounds phase v (phase :: phases) result

/-- Every run comes to an end after some rounds. -/
theorem exists_rounds (phase : Phase) (v : Validator) :
    ∃ phases, Rounds phase v phases (runFrom phase v) := by
  refine runFrom_induction (motive := fun phase v result ↦
    ∃ phases, Rounds phase v phases result) ?_ ?_ ?_ phase v
  · exact fun document v ↦ ⟨_, .finished document v⟩
  · exact fun phase v failure w hphase hround ↦ ⟨_, .failed hphase hround⟩
  · rintro phase v next w hphase hround ⟨phases, hphases⟩
    exact ⟨_, .passed hphase hround hphases⟩

variable {phase : Phase} {v : Validator} {phases : List Phase}
  {result : EStateM.Result Failure Validator Document}

/-- The rounds are those of the run. -/
theorem Rounds.result_eq (h : Rounds phase v phases result) : result = runFrom phase v := by
  induction h with
  | finished document v => rw [runFrom]
  | failed hphase hround => rw [runFrom_of_advance_error hphase hround]
  | passed hphase hround _ ih => rw [runFrom_of_advance_ok hphase hround, ih]

/-- The last round tells how many there are, and what has been handed over in the end. -/
theorem Rounds.exists_last (h : Rounds phase v phases result) (hv : Handed phase.appended v) :
    ∃ last ∈ phases.getLast?, phases.length + phase.roundsBefore = last.roundsBefore + 1 ∧
      Handed last.appended (finalState result) := by
  induction h with
  | finished document v => exact ⟨_, rfl, Nat.add_comm _ _, hv⟩
  | @failed phase v w failure hphase hround =>
    have hadvance := advance_hands hphase hv
    rw [Validation.Yields, hround] at hadvance
    exact ⟨phase, rfl, Nat.add_comm _ _, hadvance⟩
  | @passed phase next v w phases result hphase hround hnext ih =>
    have hadvance := advance_hands hphase hv
    rw [Validation.Yields, hround] at hadvance
    obtain ⟨last, hlast, hlength, hresult⟩ := ih hadvance.2
    refine ⟨last, ?_, ?_, hresult⟩
    · rw [List.getLast?_cons, hlast]
      rfl
    -- the next phase has one round more before it, and one less to come
    · rw [List.length_cons]
      have := hadvance.1
      omega

end Phase

namespace Validator

/-- **Scanning and validating end, and after how many steps is known.** Each call of `nextToken`
consumes text or leaves none, and before the end of the stream is answered there are as many calls
as there are words and control characters. A run pulls at most one result more than that. It comes
to an end, and goes round at most three times more than it hands over instructions, whether it
succeeds or fails. -/
theorem run_bounded (source : String) :
    ∃ words controls,
      Item.Listed (fun item ↦ item.IsWord source.toList) words ∧
      Item.Listed (fun item ↦ ∃ c, item.IsControl source.toList c) controls ∧
      (∀ n, ((Scanner.ofSource source).behind n).nextToken =
          ((Scanner.ofSource source).answer n, (Scanner.ofSource source).behind (n + 1)) ∧
        ((Scanner.ofSource source).behind n).Consumes
          ((Scanner.ofSource source).behind (n + 1))) ∧
      (∀ n, (∃ line, (Scanner.ofSource source).answer n = .ok ⟨.endOfStream, line⟩) ↔
        words.length + controls.length ≤ n) ∧
      (run source).pulled.length ≤ words.length + controls.length + 1 ∧
      (∃ phases result, Phase.Rounds .header (ofSource source) phases result) ∧
      ∀ phases result, Phase.Rounds .header (ofSource source) phases result →
        result = runFrom .header (ofSource source) ∧
        ∃ last ∈ phases.getLast?,
          (run source).events.filterMap Event.instruction? =
            last.appended.map Instruction.outline ∧
          phases.length ≤ last.appended.length + 3 := by
  obtain ⟨words, controls, hwords, hcontrols, hcount⟩ := Cursor.exists_words_controls source
  refine ⟨words, controls, hwords, hcontrols, fun n ↦ ⟨?_, ?_⟩, fun n ↦ ?_, ?_, ?_,
    fun phases result hphases ↦ ⟨hphases.result_eq, ?_⟩⟩
  · exact (Scanner.ofSource source).nextToken_behind n
  · exact Scanner.consumes_behind source n
  · rw [Scanner.answer_isEnd_iff, hcount]
  · calc (run source).pulled.length
      _ ≤ (scan source).length := (pulled_prefix_scan source).length_le
      _ = (Cursor.start source).items.length + 1 := by
        rw [scan_eq, List.length_append, List.length_map, List.length_singleton]
      _ = words.length + controls.length + 1 := by rw [hcount]
  · obtain ⟨phases, hphases⟩ := Phase.exists_rounds .header (ofSource source)
    exact ⟨phases, _, hphases⟩
  · obtain ⟨last, hlast, hlength, hhanded⟩ := hphases.exists_last ⟨rfl, rfl⟩
    refine ⟨last, hlast, ?_, ?_⟩
    · rw [events_run, ← hphases.result_eq]
      exact hhanded.reported
    · calc phases.length
        _ = last.roundsBefore + 1 := hlength
        _ ≤ last.appended.length + 3 := Nat.succ_le_succ last.roundsBefore_le

end Validator

end IppCode
