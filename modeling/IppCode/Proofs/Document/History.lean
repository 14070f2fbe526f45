import IppCode.Document

/-!
# Builders in any hands

What a caller can make of a builder who numbers the instructions as he likes, and who goes on after
a refusal. A call is tried (`DocumentBuilder.attempt`), and the next one is tried on the builder
that it left, be it accepted or refused. It is accepted if its number is the next one
(`DocumentBuilder.attempt_of_eq`), and else it turns out to have changed nothing
(`DocumentBuilder.attempt_of_ne`).

That a refused call changes nothing has to be proved, since the types do not say so: an action on a
builder leaves a builder in any case, and could have put the instruction in before it found out that
the number is wrong. Nothing here puts an old builder back.

Either way a builder that is numbered without a gap stays so, and keeps what it holds. By induction
on the calls this goes for any number of them (`DocumentBuilder.Numbered.attemptAll`,
`DocumentBuilder.attemptAll_eq`). The main statement, `DocumentBuilder.attemptAll_begin`, says what
comes of a new builder.
-/

namespace IppCode

/-- A call for one more instruction. It may ask for any number and any operands. -/
structure AppendCall where
  /-- The number that the caller gives to the instruction, be it the next one or not. -/
  order : Nat
  /-- The opcode of the instruction. -/
  opcode : Opcode
  /-- The operands, which need not be those that the opcode calls for. -/
  operands : List Operand
  deriving DecidableEq

/-- The instruction that the call asks for. -/
def AppendCall.instruction (call : AppendCall) : Instruction :=
  .ofOperands call.order call.opcode call.operands

namespace DocumentBuilder

/-! ### One call -/

/-- What the call leaves, and its refusal if it is refused. A refusal is caught, and the builder
is taken as it was when the call gave up. -/
def attempt (builder : DocumentBuilder) (call : AppendCall) :
    DocumentBuilder × Option OutOfSequence :=
  match append call.order call.opcode call.operands builder with
  | .ok _ after => (after, none)
  | .error refusal after => (after, some refusal)

variable {builder : DocumentBuilder} {call : AppendCall}

/-- A call with the next number adds its instruction at the end. -/
theorem attempt_of_eq (h : call.order = builder.nextOrder) :
    builder.attempt call = (builder.push call.instruction, none) := by
  rw [attempt, append_of_eq h]
  rfl

/-- A call with any other number is refused, and leaves no trace. -/
theorem attempt_of_ne (h : call.order ≠ builder.nextOrder) : builder.attempt call =
    (builder, some ⟨call.opcode, call.order, builder.nextOrder⟩) := by
  rw [attempt, append_of_ne h]

/-- The instructions of the builder are numbered 1, 2, 3, … without a gap. This is what accepting
only the next number is good for, and it is all that a builder promises. -/
def Numbered (builder : DocumentBuilder) : Prop :=
  builder.instructions.toList.map Instruction.order = List.range' 1 builder.instructions.size

/-- One call keeps the numbering, whether it is accepted or refused. -/
theorem Numbered.attempt (h : builder.Numbered) (call : AppendCall) :
    (builder.attempt call).1.Numbered := by
  by_cases hnext : call.order = builder.nextOrder
  · rw [attempt_of_eq hnext, Numbered, push_instructions, Array.toList_push, List.map_append, h,
      Array.size_push, List.range'_1_concat, Nat.add_comm 1]
    exact congrArg (_ ++ [·]) hnext
  · rw [attempt_of_ne hnext]
    exact h

/-! ### Any number of calls -/

/-- What the calls leave, one after the other. -/
def attemptAll (builder : DocumentBuilder) (calls : List AppendCall) : DocumentBuilder :=
  calls.foldl (fun builder call ↦ (builder.attempt call).1) builder

/-- The calls, each with its refusal if it is refused. -/
def answered (builder : DocumentBuilder) :
    List AppendCall → List (AppendCall × Option OutOfSequence)
  | [] => []
  | call :: calls => (call, (builder.attempt call).2) :: (builder.attempt call).1.answered calls

/-- The calls that are not refused. -/
def accepted (builder : DocumentBuilder) (calls : List AppendCall) : List AppendCall :=
  ((builder.answered calls).filter (·.2.isNone)).map Prod.fst

/-- Whether the first call is among those accepted shows in its number. -/
theorem accepted_cons (builder : DocumentBuilder) (call : AppendCall) (calls : List AppendCall) :
    builder.accepted (call :: calls) =
      if call.order = builder.nextOrder then
        call :: (builder.attempt call).1.accepted calls
      else builder.accepted calls := by
  by_cases hnext : call.order = builder.nextOrder
  · rw [if_pos hnext, accepted, answered, attempt_of_eq hnext]
    rfl
  · rw [if_neg hnext, accepted, answered, attempt_of_ne hnext]
    rfl

/-- Any number of calls keep the numbering. -/
theorem Numbered.attemptAll (h : builder.Numbered) (calls : List AppendCall) :
    (builder.attemptAll calls).Numbered := by
  induction calls generalizing builder with
  | nil => exact h
  | cons call calls ih => exact ih (h.attempt call)

/-- Every call has its answer, in the order of the calls. -/
theorem map_fst_answered (builder : DocumentBuilder) (calls : List AppendCall) :
    (builder.answered calls).map Prod.fst = calls := by
  induction calls generalizing builder with
  | nil => rfl
  | cons call calls ih => rw [answered, List.map_cons, ih]

/-- What was accepted stands behind what the builder held. -/
theorem attemptAll_eq (builder : DocumentBuilder) (calls : List AppendCall) :
    builder.attemptAll calls = ⟨builder.language, builder.instructions ++
      (builder.accepted calls).map AppendCall.instruction⟩ := by
  induction calls generalizing builder with
  | nil => exact congrArg (DocumentBuilder.mk _) (by simp [accepted, answered])
  | cons call calls ih =>
    show (builder.attempt call).1.attemptAll calls = _
    rw [ih, accepted_cons]
    by_cases hnext : call.order = builder.nextOrder
    · rw [if_pos hnext, attempt_of_eq hnext, List.map_cons]
      exact congrArg (DocumentBuilder.mk _) (by simp)
    · rw [if_neg hnext, attempt_of_ne hnext]

/-- **Whatever a builder is asked for** from the beginning on, it is numbered without a gap, and its
document has what was accepted, in the order of the calls. The next call is accepted exactly if its
number is the next one, and then adds one instruction at the end, with one argument for each operand
in order. Else it is refused with both numbers, and nothing has changed. -/
theorem attemptAll_begin (language : String) (calls : List AppendCall) :
    let builder := (begin language).attemptAll calls
    let answers := (begin language).answered calls
    let expected := builder.instructions.size + 1
    builder.instructions.toList.map Instruction.order =
        List.range' 1 builder.instructions.size ∧
      answers.map Prod.fst = calls ∧
      builder.finish =
        ⟨language, (answers.filter (·.2.isNone)).map (·.1.instruction)⟩ ∧
      ∀ call, let (after, refusal?) := builder.attempt call
        if call.order = expected then refusal? = none ∧
          after = ⟨language, builder.instructions.push
            ⟨expected, call.opcode, call.operands.map Argument.ofOperand⟩⟩
        else after = builder ∧ refusal?.map OutOfSequence.message =
          some (s!"instruction {call.opcode.mnemonic} was given order {call.order} " ++
            s!"but should have been {expected}") := by
  intro builder answers expected
  have hbuilder : builder = ⟨language,
      #[] ++ ((begin language).accepted calls).map AppendCall.instruction⟩ :=
    attemptAll_eq (begin language) calls
  have hnumbered : builder.Numbered := Numbered.attemptAll (by rfl) calls
  refine ⟨hnumbered, map_fst_answered _ calls, ?_, fun call ↦ ?_⟩
  · rw [finish, hbuilder, accepted, List.map_map, Array.toList_appendList]
    rfl
  · by_cases hnext : call.order = builder.nextOrder
    · have hlanguage : builder.language = language := congrArg DocumentBuilder.language hbuilder
      have hcall : call.instruction =
          ⟨expected, call.opcode, call.operands.map Argument.ofOperand⟩ :=
        congrArg (Instruction.ofOperands · call.opcode call.operands) hnext
      rw [attempt_of_eq hnext, push, hlanguage, hcall]
      exact (if_pos hnext).mpr ⟨rfl, rfl⟩
    · rw [attempt_of_ne hnext]
      exact (if_neg hnext).mpr ⟨rfl, rfl⟩

end DocumentBuilder

end IppCode
