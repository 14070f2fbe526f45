import IppCode.Document.Argument

/-!
# Documents

The document of a program: its language and its numbered instructions, each with the arguments
that its operands are written as.

A document is made by a `DocumentBuilder`, which takes the instructions in order and refuses one
that is numbered out of sequence. So the instructions of a finished document are numbered
1, 2, 3, … without a gap. A refusal does not end the life of a builder: whoever asked may go on
with what the refused call left. For this reason `DocumentBuilder.append` is an action on the
builder that leaves one in either case, and that a refused call leaves it as it was is a theorem
(`DocumentBuilder.append_of_ne`) and not a matter of types.

How a document is written out is in `IppCode.Document.Markup`.
-/

namespace IppCode

/-- An instruction of a document. Instructions are numbered from 1. What it keeps of its operands
are the arguments that stand for them. -/
structure Instruction where
  /-- The number of the instruction. -/
  order : Nat
  /-- The opcode, of which the document shows the mnemonic. -/
  opcode : Opcode
  /-- The arguments, of which the first is number 1. -/
  arguments : List Argument
  deriving DecidableEq

/-- The instruction with one argument for each operand, in their order. -/
def Instruction.ofOperands (order : Nat) (opcode : Opcode) (operands : List Operand) :
    Instruction :=
  ⟨order, opcode, operands.map Argument.ofOperand⟩

@[simp]
theorem Instruction.ofOperands_order (order : Nat) (opcode : Opcode) (operands : List Operand) :
    (ofOperands order opcode operands).order = order :=
  rfl

/-- A document: the instructions of a program, in the language that it names. -/
structure Document where
  /-- The name of the language, which the document states. -/
  language : String
  /-- The instructions, in the order of their numbers. -/
  instructions : List Instruction
  deriving DecidableEq

/-- The language that the documents of programs name. -/
def Document.languageName : String :=
  "IPPcode23"

/-- A document in the making: its instructions so far. That they are numbered without a gap is not
part of the type; it holds of all builders that `append` makes of a new one. -/
structure DocumentBuilder where
  language : String
  /-- What has been accepted so far, in order. -/
  instructions : Array Instruction
  deriving DecidableEq

/-- An instruction was numbered out of sequence. Both numbers are kept, the one that was given and
the one that would have been accepted. -/
structure OutOfSequence where
  opcode : Opcode
  /-- The number that was given. -/
  given : Nat
  /-- The number that would have been accepted. -/
  expected : Nat
  deriving DecidableEq

/-- The refusal names both numbers. -/
def OutOfSequence.message (refusal : OutOfSequence) : String :=
  s!"instruction {refusal.opcode.mnemonic} was given order {refusal.given} " ++
    s!"but should have been {refusal.expected}"

/-- Something that is done to a document in the making. It leaves a builder whether it is
refused or not. -/
abbrev Building :=
  EStateM OutOfSequence DocumentBuilder

namespace DocumentBuilder

/-- A document without instructions, in the language. -/
def begin (language : String) : DocumentBuilder :=
  ⟨language, #[]⟩

/-- The number that the next instruction has to have. -/
def nextOrder (builder : DocumentBuilder) : Nat :=
  builder.instructions.size + 1

/-- The builder with one more instruction at its end, whatever its number is. Only `append` looks at
the number. -/
def push (builder : DocumentBuilder) (instruction : Instruction) : DocumentBuilder :=
  { builder with instructions := builder.instructions.push instruction }

/-- Puts one more instruction at the end, if the number is the next one. -/
def append (order : Nat) (opcode : Opcode) (operands : List Operand) : Building Unit := do
  let expected := (← get).nextOrder
  if order ≠ expected then
    throw ⟨opcode, order, expected⟩
  modify (·.push (.ofOperands order opcode operands))

/-- The document that has been made. It can be made at any time, also after a refusal. -/
def finish (builder : DocumentBuilder) : Document :=
  ⟨builder.language, builder.instructions.toList⟩

@[simp]
theorem finish_begin (language : String) : (begin language).finish = ⟨language, []⟩ :=
  rfl

@[simp]
theorem push_language (builder : DocumentBuilder) (instruction : Instruction) :
    (builder.push instruction).language = builder.language :=
  rfl

@[simp]
theorem push_instructions (builder : DocumentBuilder) (instruction : Instruction) :
    (builder.push instruction).instructions = builder.instructions.push instruction :=
  rfl

@[simp]
theorem finish_push (builder : DocumentBuilder) (instruction : Instruction) :
    (builder.push instruction).finish =
      ⟨builder.language, builder.finish.instructions ++ [instruction]⟩ := by
  simp [finish, push]

@[simp]
theorem nextOrder_push (builder : DocumentBuilder) (instruction : Instruction) :
    (builder.push instruction).nextOrder = builder.nextOrder + 1 := by
  simp [nextOrder, push]

section Append

variable {builder builder' : DocumentBuilder} {order : Nat} {opcode : Opcode}
  {operands : List Operand}

/-- The next number is accepted, and the instruction goes to the end. -/
theorem append_of_eq (h : order = builder.nextOrder) :
    append order opcode operands builder =
      .ok () (builder.push (.ofOperands order opcode operands)) := by
  show (if order ≠ builder.nextOrder then _ else _ : Building Unit) builder = _
  rw [if_neg (not_not_intro h)]
  rfl

/-- Any other number is refused, and the builder is left as it was. -/
theorem append_of_ne (h : order ≠ builder.nextOrder) :
    append order opcode operands builder =
      .error ⟨opcode, order, builder.nextOrder⟩ builder := by
  show (if order ≠ builder.nextOrder then _ else _ : Building Unit) builder = _
  rw [if_pos h]
  rfl

/-- Only the next number is accepted, and then the instruction goes to the end. -/
theorem append_eq_ok_iff :
    append order opcode operands builder = .ok () builder' ↔
      order = builder.nextOrder ∧ builder' = builder.push (.ofOperands order opcode operands) := by
  by_cases h : order = builder.nextOrder
  · rw [append_of_eq h]
    simp [h, eq_comm]
  · simp [append_of_ne h, h]

end Append

end DocumentBuilder

end IppCode
