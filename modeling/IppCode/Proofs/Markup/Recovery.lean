import IppCode.Proofs.Grammar.Printing
import IppCode.Proofs.Markup.RoundTrip

/-!
# Programs from their documents

The operands of a program are recovered from the arguments of its document
(`Operand.ofArgument?_ofOperand`), and with them its statements. Those of an accepted source are
well-formed, since nothing in one of its words ends a word (`bareWord_of_mem_wordLines`), and
printed they are validated with the document that they were recovered from. So printing and
validating are inverse (`printed_inverse`).

An argument says little: its text may be that of a variable, of a label or of a string. It is the
type beside it that decides how the text is read, and the type of a constant is put in front of its
text again, so that constants are read by the very parser that accepted them.

Between the two directions there is a difference. From statements to a source and back nothing is
lost, as long as they are well-formed. From a source to statements and back its layout is lost, and
the case of its keywords, so the source that is printed is another one; but its document is the
same. The names of opcodes and types may be used for labels, and this does no harm on either way:
where they stand on the line decides.
-/

namespace IppCode

/-! ### Recovering operands

The type says how the text is to be read: as it stands, as a label, or behind a tag. What is
recovered from the argument of an operand is the operand. -/

/-- The operand of the type that the text stands for, if it stands for one. -/
def Operand.ofContent? (kind : ArgumentType) (content : String) : Option Operand :=
  match kind with
  | .var => (Variable.ofText? content).map var
  | .label => some (label content)
  | .type => (TypeName.ofText? content).map Operand.type
  | .int | .bool | .string | .nil =>
    (Constant.parse (kind.keyword ++ "@" ++ content)).toOption.map constant

/-- The operand that is written as the argument, whose entities are decoded first. -/
def Operand.ofArgument? (argument : Argument) : Option Operand :=
  ofContent? argument.kind (String.ofList (Markup.decode argument.text.toList))

/-- The statement that the instruction is, recovered from its arguments. -/
def Instruction.statement? (instruction : Instruction) : Option Statement := do
  let operands ← instruction.arguments.mapM Operand.ofArgument?
  return ⟨instruction.opcode, operands⟩

/-- The statements that the instructions of the document are. -/
def Document.statements? (document : Document) : Option (List Statement) :=
  document.instructions.mapM Instruction.statement?

namespace Operand

/-- If the operand is a constant, it is well-formed. -/
def HasConstant (operand : Operand) : Prop :=
  ∀ c, operand = .constant c → c.WellFormed

/-- A constant that is well-formed is a number if it says so. -/
theorem HasConstant.hasIntegerText {operand : Operand} (h : operand.HasConstant) :
    operand.HasIntegerText := by
  rcases operand with v | (digits | value | body | -) | name | t
  case constant.int => exact h _ rfl
  all_goals trivial

theorem WellFormed.hasConstant {kind : OperandKind} {operand : Operand}
    (h : WellFormed kind operand) : operand.HasConstant := by
  rintro c rfl
  cases h with
  | int digits hdigits => exact hdigits
  | string body hescaped hchars => exact hescaped
  | bool | nil => trivial

/-- **The operand is recovered** from its argument. -/
theorem ofArgument?_ofOperand {operand : Operand} (h : operand.HasConstant) :
    ofArgument? (.ofOperand operand) = some operand := by
  have hcontent : String.ofList (Markup.decode (Argument.ofOperand operand).text.toList) =
      operand.element.text := by
    rw [(Argument.text_ofOperand h.hasIntegerText).2, String.ofList_toList]
  rw [ofArgument?, hcontent]
  rcases operand with v | c | name | t
  · have hv : Variable.ofText? v.text = some v := Variable.ofText?_eq_some_iff.2 rfl
    exact congrArg (Option.map var) hv
  · -- whatever its type is, a constant is read behind the tag of that type
    have hkind : ofContent? (Argument.ofOperand (.constant c)).kind c.body =
        (Constant.parse c.text).toOption.map constant := by
      cases c <;> rfl
    have hc : Constant.parse c.text = .ok c := Constant.parse_eq_ok_iff.2 ⟨rfl, h c rfl⟩
    exact hkind.trans (by rw [hc]; rfl)
  · rfl
  · have ht : TypeName.ofText? t.keyword = some t := TypeName.ofText?_eq_some_iff.2 rfl
    exact congrArg (Option.map Operand.type) ht

end Operand

/-! ### Words of accepted sources

A word of a source has no separators in it by the way it was cut off, so it can be printed without
anything being lost. -/

/-- What stands between separators is part of the list, and holds none of them. -/
theorem mem_of_mem_splitOnP {α : Type} {p : α → Bool} {xs piece : List α}
    (h : piece ∈ xs.splitOnP p) {x : α} (hx : x ∈ piece) : x ∈ xs ∧ p x = false := by
  induction xs generalizing piece with
  | nil =>
    rw [List.splitOnP_nil, List.mem_singleton] at h
    exact absurd (h ▸ hx) List.not_mem_nil
  | cons y xs ih =>
    have htail : piece ∈ xs.splitOnP p → x ∈ y :: xs ∧ p x = false := fun hpiece ↦
      (ih hpiece hx).imp_left (List.mem_cons_of_mem y)
    rw [List.splitOnP_cons_eq_if_modifyHead] at h
    split at h
    · rcases List.mem_cons.1 h with rfl | hpiece
      · exact absurd hx List.not_mem_nil
      · exact htail hpiece
    · rename_i hy
      -- the head belongs to the first piece of what is behind it
      obtain ⟨first, more, hsplit⟩ := List.exists_cons_of_ne_nil (List.splitOnP_ne_nil p xs)
      rw [hsplit, List.modifyHead_cons] at h
      rw [hsplit] at ih htail
      rcases List.mem_cons.1 h with rfl | hpiece
      · rcases List.mem_cons.1 hx with rfl | hx
        · exact ⟨List.mem_cons_self, by simpa using hy⟩
        · exact (ih List.mem_cons_self hx).imp_left (List.mem_cons_of_mem y)
      · exact htail (List.mem_cons_of_mem _ hpiece)

/-- Nothing in a word of a source without control characters ends a word. -/
theorem bareWord_of_mem_wordLines {source : String} (hclean : Clean source) {line : List String}
    (hline : line ∈ wordLines source) : ∀ word ∈ line, BareWord word := by
  intro word hword
  obtain ⟨text, htext, rfl⟩ := List.mem_map.1 (List.mem_filter.1 hline).1
  obtain ⟨piece, hpiece, rfl⟩ := List.mem_map.1 hword
  obtain ⟨hmem, hne⟩ := List.mem_filter.1 hpiece
  rw [BareWord, String.toList_ofList]
  refine ⟨of_decide_eq_true hne, fun c hc ↦ ?_⟩
  obtain ⟨hctext, hblank⟩ := mem_of_mem_splitOnP hmem hc
  rw [isWordChar_eq_true_iff]
  refine ⟨?_, ?_, hblank, hclean text htext c hctext⟩
  · rintro rfl
    exact not_mem_of_mem_splitAt htext ((List.takeWhile_sublist _).subset hctext)
  · rintro rfl
    exact not_mem_takeWhile_of_neg (by simp) hctext

/-! ### Recovering statements

Each line of an accepted source is a statement under its number. The number is forgotten, since
printing gives the same one again. -/

/-- The lines of an accepted source are well-formed statements, numbered on from the order of the
first of them. -/
theorem exists_statements_of_instructionLines {order : Nat} {lines : List (List String)}
    {instructions : List Instruction} (h : List.Forall₂ InstructionLine lines instructions)
    (horders : instructions.map Instruction.order = List.range' order instructions.length)
    (hlines : ∀ line ∈ lines, ∀ word ∈ line, BareWord word) :
    ∃ statements, instructions = numberedFrom order statements ∧
      ∀ statement ∈ statements, statement.WellFormed := by
  induction h generalizing order with
  | nil => exact ⟨[], rfl, List.forall_mem_nil _⟩
  | cons hline _ ih =>
    obtain ⟨hwords, hmore⟩ := List.forall_mem_cons.1 hlines
    rw [List.map_cons, List.length_cons, List.range'_succ, List.cons.injEq] at horders
    obtain ⟨rfl, horders⟩ := horders
    obtain ⟨statements, rfl, hstatements⟩ := ih horders hmore
    obtain ⟨order, opcode, operands, -, hoperands⟩ := hline
    exact ⟨⟨opcode, operands⟩ :: statements, rfl, List.forall_mem_cons.2
      ⟨wellFormed_of_spellAll hoperands (List.forall_mem_cons.1 hwords).2, hstatements⟩⟩

/-- The document of an accepted source holds well-formed statements, numbered from 1. -/
theorem exists_statements_of_validate {source : String} {document : Document}
    (h : validate source = .ok document) :
    ∃ statements, document = ⟨Document.languageName, numberedFrom 1 statements⟩ ∧
      ∀ statement ∈ statements, statement.WellFormed := by
  obtain ⟨hclean, ⟨header, body, hlines, -, hbody⟩, horders, hlanguage⟩ :=
    validate_eq_ok_iff_program.1 h
  obtain ⟨statements, hinstructions, hstatements⟩ :=
    exists_statements_of_instructionLines hbody horders fun line hline ↦
      bareWord_of_mem_wordLines hclean (hlines ▸ List.mem_cons_of_mem _ hline)
  obtain ⟨language, instructions⟩ := document
  obtain rfl : language = Document.languageName := hlanguage
  exact ⟨statements, congrArg _ hinstructions, hstatements⟩

theorem mapM_eq_some_map {α β : Type} {f : α → Option β} {g : α → β} {xs : List α}
    (h : ∀ x ∈ xs, f x = some (g x)) : xs.mapM f = some (xs.map g) := by
  induction xs with
  | nil => rfl
  | cons x xs ih =>
    obtain ⟨hx, hxs⟩ := List.forall_mem_cons.1 h
    rw [List.mapM_cons, hx, ih hxs]
    rfl

/-- A well-formed statement is recovered from its instruction, whatever its number is. -/
theorem Statement.WellFormed.statement?_numbered {statement : Statement}
    (h : statement.WellFormed) (order : Nat) :
    (statement.numbered order).statement? = some statement := by
  have hoperands : (statement.operands.map Argument.ofOperand).mapM Operand.ofArgument? =
      some (statement.operands.map id) := by
    rw [List.mapM_map]
    refine mapM_eq_some_map fun operand hoperand ↦ ?_
    obtain ⟨kind, hkind⟩ := h.exists_kind hoperand
    exact Operand.ofArgument?_ofOperand hkind.hasConstant
  show ((statement.operands.map Argument.ofOperand).mapM Operand.ofArgument?).bind _ = _
  rw [hoperands, List.map_id]
  rfl

/-- Well-formed statements are recovered from a document that holds them. -/
theorem Document.statements?_numberedFrom {language : String} {statements : List Statement}
    (h : ∀ statement ∈ statements, statement.WellFormed) (order : Nat) :
    Document.statements? ⟨language, numberedFrom order statements⟩ = some statements := by
  show (numberedFrom order statements).mapM Instruction.statement? = some statements
  induction statements generalizing order with
  | nil => rfl
  | cons statement statements ih =>
    obtain ⟨hstatement, hstatements⟩ := List.forall_mem_cons.1 h
    rw [numberedFrom, List.mapM_cons, hstatement.statement?_numbered, ih hstatements]
    rfl

/-- **Printing and validating are inverse.** Well-formed statements are accepted when they are
printed, with the document that a builder makes of them, and they are recovered from it. And
whatever source is accepted, the statements that are recovered from its document are well-formed,
and printed they are validated with the same document. -/
theorem printed_inverse :
    (∀ statements : List Statement, (∀ statement ∈ statements, statement.WellFormed) →
      ∃ document, built statements = .ok document ∧
        validate (printed statements) = .ok document ∧
        document.statements? = some statements) ∧
    ∀ (source : String) (document : Document), validate source = .ok document →
      ∃ statements, document.statements? = some statements ∧
        (∀ statement ∈ statements, statement.WellFormed) ∧
        validate (printed statements) = .ok document := by
  constructor
  · intro statements h
    exact ⟨_, built_eq_ok statements, validate_printed h, Document.statements?_numberedFrom h 1⟩
  · intro source document h
    obtain ⟨statements, rfl, hstatements⟩ := exists_statements_of_validate h
    exact ⟨statements, Document.statements?_numberedFrom hstatements 1, hstatements,
      validate_printed hstatements⟩

/-- A label that is the name of a type and a string that looks like a variable are printed, and a
label that is a mnemonic is recovered. -/
theorem printed_inverse_keywords :
    (∀ statement ∈ [(⟨.label, [.label "int"]⟩ : Statement),
        ⟨.pushS, [.constant (.string "GF@<\\035")]⟩], statement.WellFormed) ∧
    (∃ document, built [⟨.label, [.label "int"]⟩,
          ⟨.pushS, [.constant (.string "GF@<\\035")]⟩] = .ok document ∧
      validate (printed [⟨.label, [.label "int"]⟩,
          ⟨.pushS, [.constant (.string "GF@<\\035")]⟩]) = .ok document ∧
      document.statements? = some [⟨.label, [.label "int"]⟩,
          ⟨.pushS, [.constant (.string "GF@<\\035")]⟩]) ∧
    validate "#\n.ippCODE23\ncall  Move" = .ok ⟨"IPPcode23", [⟨1, .call, [⟨.label, "Move"⟩]⟩]⟩ ∧
    ∃ statements, Document.statements? ⟨"IPPcode23", [⟨1, .call, [⟨.label, "Move"⟩]⟩]⟩ =
        some statements ∧
      (∀ statement ∈ statements, statement.WellFormed) ∧
      validate (printed statements) = .ok ⟨"IPPcode23", [⟨1, .call, [⟨.label, "Move"⟩]⟩]⟩ := by
  have hlabel : Statement.WellFormed ⟨.label, [.label "int"]⟩ :=
    .cons (.label "int" (isIdentifier_eq_true_iff.1 (by decide))) .nil
  have hpush : Statement.WellFormed ⟨.pushS, [.constant (.string "GF@<\\035")]⟩ :=
    .cons (.string "GF@<\\035" (isEscaped_eq_true_iff.1 (by decide))
      (List.all_eq_true.1 (by decide))) .nil
  have hwell : ∀ statement ∈ [(⟨.label, [.label "int"]⟩ : Statement),
      ⟨.pushS, [.constant (.string "GF@<\\035")]⟩], statement.WellFormed :=
    List.forall_mem_cons.2 ⟨hlabel, List.forall_mem_singleton.2 hpush⟩
  have hvalidate : validate "#\n.ippCODE23\ncall  Move" =
      .ok ⟨"IPPcode23", [⟨1, .call, [⟨.label, "Move"⟩]⟩]⟩ :=
    validate_eq_ok_iff_feed.2 (by rw [scan_eq_lineResults (by decide)]; rfl)
  exact ⟨hwell, printed_inverse.1 _ hwell, hvalidate, printed_inverse.2 _ _ hvalidate⟩

end IppCode
