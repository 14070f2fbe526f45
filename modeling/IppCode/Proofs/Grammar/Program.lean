import IppCode.Lexeme
import IppCode.Proofs.Words.Operand

/-!
# The grammar of programs

A program, line by line. A line ends at a newline and is cut at its first `#`; what is left holds
no control character and is read as words (`words`). The lines without words do not count. The
first of the others is the header alone, and each later one is an instruction: a mnemonic and as
many words as its opcode calls for, each of which spells an operand (`InstructionLine`).

`Program source document` says that the source is a program and that the document is its
translation: the instructions in the order of their lines, numbered from 1.
-/

namespace IppCode

/-! ### Lines and words -/

/-- The lines of a source, each without its line end. -/
def sourceLines (source : String) : List (List Char) :=
  Text.splitAt '\n' source.toList

/-- A line without its comment. -/
def uncommented (line : List Char) : List Char :=
  line.takeWhile (· ≠ '#')

/-- The words of a line: its longest runs of characters other than blanks. -/
def words (line : List Char) : List String :=
  ((line.splitOnP isBlank).filter (· ≠ [])).map String.ofList

/-- The words of the lines that have any. -/
def wordLines (source : String) : List (List String) :=
  ((sourceLines source).map fun line ↦ words (uncommented line)).filter (· ≠ [])

/-- Control characters stand in comments only. -/
def Clean (source : String) : Prop :=
  ∀ line ∈ sourceLines source, ∀ c ∈ uncommented line, isStray c = false

instance (source : String) : Decidable (Clean source) :=
  decidable_of_iff
    ((sourceLines source).all fun line ↦ (uncommented line).all fun c ↦ !isStray c) (by
      simp [Clean])

@[simp]
theorem words_nil : words [] = [] := by
  simp [words]

/-- Words end at a blank. -/
theorem words_append_blank {c : Char} (hc : isBlank c = true) (before after : List Char) :
    words (before ++ c :: after) = words before ++ words after := by
  rw [words, List.splitOnP_append_cons before after hc, List.filter_append, List.map_append]
  rfl

theorem words_blank {c : Char} (hc : isBlank c = true) (rest : List Char) :
    words (c :: rest) = words rest := by
  simpa using words_append_blank hc [] rest

/-- Blanks in front of a word are not part of it. -/
theorem words_dropWhile_blank (line : List Char) :
    words (line.dropWhile isBlank) = words line := by
  induction line with
  | nil => rfl
  | cons c rest ih =>
    rcases hc : isBlank c with - | -
    · simp [hc]
    · rw [List.dropWhile_cons_of_pos hc, ih, words_blank hc]

/-- A run without a blank is one word. -/
theorem words_eq_singleton {word : List Char} (hne : word ≠ [])
    (hword : ∀ c ∈ word, isBlank c = false) : words word = [String.ofList word] := by
  rw [words, List.splitOnP_eq_singleton hword]
  simp [hne]

/-! ### Programs -/

/-- The words of a line are the instruction: its mnemonic, in whatever case, and its operands. -/
inductive InstructionLine : List String → Instruction → Prop
  /-- The operands are those that the opcode calls for, one word each, and no more. Nothing is said
  about the number of the instruction. -/
  | mk {mnemonic : String} {operandWords : List String} (order : Nat) (opcode : Opcode)
      (operands : List Operand)
      (hmnemonic : Text.upperCase mnemonic = opcode.mnemonic)
      (hoperands : SpellAll opcode.operandKinds operandWords operands) :
    InstructionLine (mnemonic :: operandWords) (.ofOperands order opcode operands)

/-- The source is a program, and the document is its translation. -/
structure Program (source : String) (document : Document) : Prop where
  /-- No control character stands outside comments. -/
  clean : Clean source
  /-- The header comes first, alone on its line, and then one instruction a line. -/
  lines : ∃ header body, wordLines source = [header] :: body ∧
    Text.upperCase header = ".IPPCODE23" ∧
    List.Forall₂ InstructionLine body document.instructions
  /-- Instructions are numbered from 1. -/
  orders : document.instructions.map Instruction.order =
    List.range' 1 document.instructions.length
  /-- The document names the language of programs. -/
  language : document.language = "IPPcode23"

end IppCode
