import IppCode.Proofs.Document.History
import IppCode.Proofs.Grammar.Language
import IppCode.Proofs.Markup.Escaping

/-!
# The XML form determines the document

What is read from the XML form of a document (`Markup.readDocument`) are its language and its
instructions, with their numbers, their opcodes and the operands that they were made of. It does not
matter what the texts of the operands are. A label or a string may look like the end of its element
or like an entity: no `<` is left in an escaped text (`Markup.escaped_escape`), and decoding it once
undoes the escaping (`Markup.decode_escape`).

Numbers and keywords are written as they are. This asks that numbers hold signs and digits only
(`Operand.HasIntegerText`), which validation guarantees (`Spells.hasIntegerText`) and a user of the
builder has to see to.

A document holds arguments and no operands. What it was made of is told by calls of a builder
(`AppendCall`), and a document is made of one list of them only
(`AppendCall.instruction_injective`), so it makes sense to say of a document which calls are read
back from it.

The way goes up through the elements: what is rendered for an argument, a list of arguments, an
instruction, a list of instructions is read back **whatever stands behind it**. Each reader stops by
itself, at a literal that cannot stand in what it reads, and so nothing has to be known of the rest
of the document in order to read the part at hand.

Two documents with the same text are then made of calls with the same elements, and an element
determines its call (`AppendCall.element_injective`). Here the types are needed: the text `int` is
that of a type, of a label and of a string.
-/

namespace IppCode

/-- If the operand is a number, its text is one. -/
def Operand.HasIntegerText : Operand → Prop
  | constant (.int digits) => IntegerText digits
  | _ => True

/-- A number holds signs and digits only. -/
theorem IntegerText.not_mem {text : String} (h : IntegerText text) {c : Char}
    (hsign : c ∉ ['+', '-']) (hdigit : c.isDigit = false) : c ∉ text.toList := by
  obtain ⟨sign, hmem, digits, htext, -, hdigits⟩ := h
  have hdigit' : ¬ IsDigit c := by simp [← isDigit_eq_true_iff, hdigit]
  rw [htext, List.mem_append, not_or]
  refine ⟨?_, fun hc ↦ hdigit' (hdigits c hc)⟩
  simp only [List.mem_cons, List.not_mem_nil, or_false] at hmem hsign
  rcases hmem with rfl | rfl | rfl
  · exact List.not_mem_nil
  · simpa using fun heq : c = '+' ↦ hsign (.inl heq)
  · simpa using fun heq : c = '-' ↦ hsign (.inr heq)

/-! ### Elements

What a reader should see of an operand is put next to what is written for it: the type is written as
it stands, the text escaped. -/

/-- The element that the operand is written as: its type, and its text without any escaping. -/
def Operand.element : Operand → Markup.ArgumentElement
  | var v => ⟨"var", v.text⟩
  | constant c => ⟨c.type.keyword, c.body⟩
  | label name => ⟨"label", name⟩
  | type t => ⟨"type", t.keyword⟩

/-- The element of the instruction that the call asks for. -/
def AppendCall.element (call : AppendCall) : Markup.InstructionElement :=
  ⟨call.order, call.opcode, call.operands.map Operand.element⟩

/-- The numbers among the operands of the call are numbers. -/
def AppendCall.HasIntegerTexts (call : AppendCall) : Prop :=
  ∀ operand ∈ call.operands, operand.HasIntegerText

namespace Argument

/-- The type of the element is written as the type of the argument is named. -/
theorem keyword_ofOperand (operand : Operand) :
    (ofOperand operand).kind.keyword = operand.element.type := by
  rcases operand with v | (digits | value | body | -) | name | t <;> rfl

/-- The type of an argument does not end the attribute that it stands in. -/
theorem not_mem_keyword (kind : ArgumentType) : '"' ∉ kind.keyword.toList := by
  cases kind <;> decide

/-- What stands in the element of an argument is no markup, and stands for the text of the
operand. -/
theorem text_ofOperand {operand : Operand} (h : operand.HasIntegerText) :
    '<' ∉ (ofOperand operand).text.toList ∧
      Markup.decode (ofOperand operand).text.toList = operand.element.text.toList := by
  have hescape : ∀ text, '<' ∉ (Markup.escape text).toList ∧
      Markup.decode (Markup.escape text).toList = text.toList := fun text ↦
    ⟨(Markup.escaped_escape text).not_mem_lt, Markup.decode_escape text⟩
  have hplain : ∀ text : String, '<' ∉ text.toList → '&' ∉ text.toList →
      '<' ∉ text.toList ∧ Markup.decode text.toList = text.toList := fun text hlt hamp ↦
    ⟨hlt, Markup.decode_eq_self hamp⟩
  rcases operand with v | (digits | (- | -) | body | -) | name | t
  · exact hescape v.text
  · exact hplain digits (h.not_mem (by decide) (by decide)) (h.not_mem (by decide) (by decide))
  · exact hplain "false" (by decide) (by decide)
  · exact hplain "true" (by decide) (by decide)
  · exact hescape body
  · exact hplain "nil" (by decide) (by decide)
  · exact hescape name
  · cases t
    · exact hplain "int" (by decide) (by decide)
    · exact hplain "bool" (by decide) (by decide)
    · exact hplain "string" (by decide) (by decide)

end Argument

theorem Opcode.not_mem_mnemonic (opcode : Opcode) : '"' ∉ opcode.mnemonic.toList := by
  cases opcode <;> decide

namespace Markup

/-! ### Reading what was written

From the inside out, each with an arbitrary text behind it. At every level the reader has to stop at
a character that what it reads cannot hold, and each time it is the first character of a tag or the
quotation mark. -/

theorem toString_eq_self (text : String) : toString text = text :=
  rfl

/-- The quotation mark that ends an attribute stands in front of a literal. -/
theorem toList_endOfAttribute (rest : List Char) :
    "\">".toList ++ rest = '"' :: (">".toList ++ rest) :=
  rfl

/-- The element of an argument is read as that of its operand, whatever stands behind it. -/
theorem readArgument_render {operand : Operand} (h : operand.HasIntegerText) (position : Nat)
    (rest : List Char) :
    readArgument position (((Argument.ofOperand operand).render position).toList ++ rest) =
      some (operand.element, rest) := by
  obtain ⟨hmarkup, hdecode⟩ := Argument.text_ofOperand h
  have hkeyword := Argument.keyword_ofOperand operand
  generalize Argument.ofOperand operand = argument at hmarkup hdecode hkeyword
  have htext : (argument.render position).toList ++ rest =
      s!"\t\t<arg{position} type=\"".toList ++ (argument.kind.keyword.toList ++ '"' ::
        (">".toList ++ (argument.text.toList ++ '<' ::
          (s!"/arg{position}>\n".toList ++ rest)))) := by
    unfold Argument.render
    simp only [String.toList_append, toString_eq_self, List.append_assoc]
    have hclose : "</arg".toList = '<' :: "/arg".toList := by decide
    rw [toList_endOfAttribute, hclose, List.cons_append]
  simp only [readArgument, Option.bind_eq_bind, Option.bind_eq_some_iff, skipLiteral_eq_some_iff,
    Prod.exists, Text.cutAt?_eq_some_iff]
  refine ⟨_, htext, _, _, ⟨rfl, Argument.not_mem_keyword _⟩, _, rfl, _, _, ⟨rfl, hmarkup⟩, _,
    rfl, ?_⟩
  rw [hdecode, hkeyword, String.ofList_toList, String.ofList_toList]
  rfl

/-- The elements of arguments are read up to the end of their instruction. -/
theorem readArguments_render {operands : List Operand}
    (h : ∀ operand ∈ operands, operand.HasIntegerText) (position : Nat) (rest : List Char) :
    readArguments position
        ((Argument.renderFrom position (operands.map Argument.ofOperand)).toList ++
          ("\t</instruction>\n".toList ++ rest)) =
      some (operands.map Operand.element, rest) := by
  induction operands generalizing position with
  | nil =>
    rw [List.map_nil, Argument.renderFrom, String.toList_empty, List.nil_append, List.map_nil]
    exact readArguments_nil position rest
  | cons operand operands ih =>
    have hoperand := h operand List.mem_cons_self
    have hrest := ih (fun other hother ↦ h other (List.mem_cons_of_mem _ hother)) (position + 1)
    rw [List.map_cons, Argument.renderFrom, String.toList_append, List.append_assoc, List.map_cons]
    refine readArguments_cons ?_ (readArgument_render hoperand position _) hrest
    -- a second tab stands where the end of the instruction has a `<`
    refine skipLiteral_eq_none (i := 1) (c := '<') (d := '\t') (by decide) ?_ (by decide)
    unfold Argument.render
    simp only [String.toList_append, toString_eq_self, List.append_assoc]
    exact List.getElem?_append_left (by decide)

/-- Decimal digits are read as their number. -/
theorem readNumber_repr (n : Nat) : readNumber (toString n).toList = some n := by
  have hdigits : (toString n).toList = Nat.toDigits 10 n := Nat.toList_repr
  have hall : (Nat.toDigits 10 n).all Char.isDigit = true :=
    List.all_eq_true.2 fun c hc ↦ Nat.isDigit_of_mem_toDigits (by decide) (by decide) hc
  rw [hdigits, readNumber, if_pos ⟨Nat.toDigits_ne_nil, hall⟩,
    Nat.ofDigitChars_toDigits (by decide) (by decide)]

/-- A number is written without quotation marks. -/
theorem not_mem_repr (n : Nat) : '"' ∉ (toString n).toList := by
  have hdigits : (toString n).toList = Nat.toDigits 10 n := Nat.toList_repr
  rw [hdigits]
  intro hmem
  exact absurd (Nat.isDigit_of_mem_toDigits (by decide) (by decide) hmem) (by decide)

/-- An opcode is found by its mnemonic. -/
theorem find?_mnemonic (opcode : Opcode) :
    Opcode.all.find? (fun other ↦ other.mnemonic == String.ofList opcode.mnemonic.toList) =
      some opcode := by
  rw [String.ofList_toList, find?_keyword_eq_some_iff Opcode.mnemonic_injective opcode.mem_all]

/-- The element of an instruction is read as that of its call, whatever stands behind it. -/
theorem readInstruction_render {call : AppendCall} (h : call.HasIntegerTexts) (rest : List Char) :
    readInstruction (call.instruction.render.toList ++ rest) = some (call.element, rest) := by
  have htext : call.instruction.render.toList ++ rest =
      "\t<instruction order=\"".toList ++ ((toString call.order).toList ++ '"' ::
        (" opcode=\"".toList ++ (call.opcode.mnemonic.toList ++ '"' ::
          (">\n".toList ++ ((Argument.renderFrom 1 call.instruction.arguments).toList ++
            ("\t</instruction>\n".toList ++ rest)))))) := by
    have hopcode : "\" opcode=\"".toList = '"' :: " opcode=\"".toList := by decide
    have hend : "\">\n".toList = '"' :: ">\n".toList := by decide
    unfold Instruction.render
    simp only [String.toList_append, toString_eq_self, List.append_assoc]
    rw [hopcode, hend, List.cons_append, List.cons_append]
    rfl
  simp only [readInstruction, Option.bind_eq_bind, Option.bind_eq_some_iff,
    skipLiteral_eq_some_iff, Prod.exists, Text.cutAt?_eq_some_iff]
  exact ⟨_, htext, _, _, ⟨rfl, not_mem_repr _⟩, _, readNumber_repr _, _, rfl, _, _,
    ⟨rfl, call.opcode.not_mem_mnemonic⟩, _, find?_mnemonic _, _, rfl, _, _,
    readArguments_render h 1 rest, rfl⟩

/-- The elements of instructions are read up to the end of the program. -/
theorem readInstructions_render {calls : List AppendCall}
    (h : ∀ call ∈ calls, call.HasIntegerTexts) :
    readInstructions
        (((calls.map AppendCall.instruction).map Instruction.render).flatMap String.toList ++
          "</program>\n".toList) =
      some (calls.map AppendCall.element) := by
  induction calls with
  | nil => exact readInstructions_nil
  | cons call calls ih =>
    have hcall := h call List.mem_cons_self
    have hrest := ih fun other hother ↦ h other (List.mem_cons_of_mem _ hother)
    rw [List.map_cons, List.map_cons, List.flatMap_cons, List.append_assoc, List.map_cons]
    refine readInstructions_cons ?_ (readInstruction_render hcall _) hrest
    -- a tab stands where the end of the program has a `<`
    refine skipLiteral_eq_none (i := 0) (c := '<') (d := '\t') (by decide) ?_ (by decide)
    unfold Instruction.render
    simp only [String.toList_append, toString_eq_self, List.append_assoc]
    exact List.getElem?_append_left (by decide)

/-- What is read from the XML form of a document are the calls that it was made of. -/
theorem readDocument_render {language : String} {calls : List AppendCall}
    (hlanguage : '"' ∉ language.toList) (h : ∀ call ∈ calls, call.HasIntegerTexts) :
    readDocument (Document.render ⟨language, calls.map AppendCall.instruction⟩) =
      some ⟨language, calls.map AppendCall.element⟩ := by
  have htext : (Document.render ⟨language, calls.map AppendCall.instruction⟩).toList =
      "<?xml version=\"1.0\" encoding=\"UTF-8\"?>\n".toList ++
        ("<program language=\"".toList ++ (language.toList ++ '"' ::
          (">\n".toList ++ (((calls.map AppendCall.instruction).map Instruction.render).flatMap
            String.toList ++ "</program>\n".toList)))) := by
    have hend : "\">\n".toList = '"' :: ">\n".toList := by decide
    unfold Document.render
    simp only [String.toList_append, toString_eq_self, String.toList_join, List.append_assoc]
    rw [hend, List.cons_append]
  simp only [readDocument, Option.bind_eq_bind, Option.bind_eq_some_iff,
    skipLiteral_eq_some_iff, Prod.exists, Text.cutAt?_eq_some_iff]
  refine ⟨_, htext, _, rfl, _, _, ⟨rfl, hlanguage⟩, _, rfl, _, readInstructions_render h, ?_⟩
  rw [String.ofList_toList]
  rfl

end Markup

/-! ### Elements and documents

Elements tell operands apart. For constants this takes the type, since the body of a string may look
like a number; for variables it takes the first `@`. -/

/-- A variable is determined by its text: the frame ends at the first `@`, and the rest is its name
alone. -/
theorem Variable.text_injective : Function.Injective Variable.text := by
  intro v w h
  have hv : splitFrame? v.text = some (v.frame, v.name) := splitFrame?_eq_some_iff.2 rfl
  have hw : splitFrame? w.text = some (w.frame, w.name) := splitFrame?_eq_some_iff.2 rfl
  rw [h, hw] at hv
  obtain ⟨hframe, hname⟩ := Prod.mk.inj (Option.some.inj hv)
  exact Variable.ext hframe.symm hname.symm

/-- A constant is determined by its type and its body. -/
theorem Constant.eq_of_type_of_body {c d : Constant} (htype : c.type = d.type)
    (hbody : c.body = d.body) : c = d := by
  rcases c with digits | (- | -) | body | - <;> rcases d with digits' | (- | -) | body' | - <;>
    simp_all [Constant.type, Constant.body]

/-- An operand is determined by its element. -/
theorem Operand.element_injective : Function.Injective Operand.element := by
  have hconstant : ∀ (type : ConstantType) (text : String), text ∈ ["var", "label", "type"] →
      type.keyword ≠ text := by
    rintro (- | - | - | -) text htext <;> rintro rfl <;> revert htext <;> decide
  intro a b h
  have htype : a.element.type = b.element.type := congrArg Markup.ArgumentElement.type h
  have htext : a.element.text = b.element.text := congrArg Markup.ArgumentElement.text h
  cases a <;> cases b
  -- operands of one form are told apart by their texts, and operands of different forms by their
  -- types: no type of constants is named `var`, `label` or `type`
  case var.var v w => exact congrArg var (Variable.text_injective htext)
  case constant.constant c d =>
    exact congrArg constant
      (Constant.eq_of_type_of_body (ConstantType.keyword_injective htype) htext)
  case label.label => exact congrArg label htext
  case type.type => exact congrArg type (TypeName.keyword_injective htext)
  case constant.var c v => exact absurd htype (hconstant c.type "var" (by decide))
  case constant.label c name => exact absurd htype (hconstant c.type "label" (by decide))
  case constant.type c t => exact absurd htype (hconstant c.type "type" (by decide))
  case var.constant v c => exact absurd htype.symm (hconstant c.type "var" (by decide))
  case label.constant name c => exact absurd htype.symm (hconstant c.type "label" (by decide))
  case type.constant t c => exact absurd htype.symm (hconstant c.type "type" (by decide))
  case var.label v name => exact absurd (show "var" = "label" from htype) (by decide)
  case var.type v t => exact absurd (show "var" = "type" from htype) (by decide)
  case label.var name v => exact absurd (show "label" = "var" from htype) (by decide)
  case label.type name t => exact absurd (show "label" = "type" from htype) (by decide)
  case type.var t v => exact absurd (show "type" = "var" from htype) (by decide)
  case type.label t name => exact absurd (show "type" = "label" from htype) (by decide)

/-- No operand is lost in its argument. This asks nothing of numbers: texts of different types are
not compared, and what is escaped is unescaped again. -/
theorem Argument.ofOperand_injective : Function.Injective ofOperand := by
  have hescape : Function.Injective Markup.escape :=
    Function.LeftInverse.injective Markup.unescape_escape
  intro a b h
  have hkind := congrArg kind h
  have htext := congrArg text h
  rcases a with v | (digits | value | body | -) | name | t <;>
    rcases b with w | (digits' | value' | body' | -) | name' | t' <;> cases hkind
  · exact congrArg Operand.var (Variable.text_injective (hescape htext))
  · exact congrArg (Operand.constant <| .int ·) htext
  · exact congrArg Operand.constant (Constant.eq_of_type_of_body rfl htext)
  · exact congrArg (Operand.constant <| .string ·) (hescape htext)
  · rfl
  · exact congrArg Operand.label (hescape htext)
  · exact congrArg Operand.type (TypeName.keyword_injective htext)

/-- A call is determined by the element of its instruction. -/
theorem AppendCall.element_injective : Function.Injective element := by
  intro a b h
  obtain ⟨horder, hopcode, hmap⟩ := Markup.InstructionElement.mk.inj h
  have hoperands := List.map_injective_iff.2 Operand.element_injective hmap
  rcases a with ⟨order, opcode, operands⟩
  rcases b with ⟨order', opcode', operands'⟩
  rw [AppendCall.mk.injEq]
  exact ⟨horder, hopcode, hoperands⟩

/-- An instruction is made of one call only. -/
theorem AppendCall.instruction_injective : Function.Injective instruction := by
  intro a b h
  obtain ⟨horder, hopcode, hmap⟩ := Instruction.mk.inj h
  have hoperands := List.map_injective_iff.2 Argument.ofOperand_injective hmap
  rcases a with ⟨order, opcode, operands⟩
  rcases b with ⟨order', opcode', operands'⟩
  rw [AppendCall.mk.injEq]
  exact ⟨horder, hopcode, hoperands⟩

/-! ### Documents that can be read back

Two ways lead to a document: a source that is accepted, and a builder that is used directly. On both
the document comes from calls, and it is these that the reader gives back. -/

/-- The builder was begun for the language of programs, and every call for an instruction that it
accepted has numbers in the place of numbers. Variables are valid by their type; labels and strings
may be anything. -/
inductive DocumentBuilder.Built : DocumentBuilder → Prop
  /-- A new builder has no instructions. -/
  | begin : Built (begin "IPPcode23")
  /-- A call that was refused does not count. -/
  | append {builder longer : DocumentBuilder} (call : AppendCall) (hbuilder : Built builder)
      (hcall : call.HasIntegerTexts)
      (happend : DocumentBuilder.append call.order call.opcode call.operands builder =
        .ok () longer) : Built longer

/-- The document comes from an accepted source or out of a builder. -/
inductive Document.Printable : Document → Prop
  /-- The document of a program. -/
  | validated {source : String} {document : Document} (h : validate source = .ok document) :
    Printable document
  /-- Whatever has been built, at any time. -/
  | built {builder : DocumentBuilder} (h : builder.Built) : Printable builder.finish

/-- What is spelled as a number is one. -/
theorem Spells.hasIntegerText {kind : OperandKind} {word : String} {operand : Operand}
    (h : Spells kind word operand) : operand.HasIntegerText := by
  cases h with
  | int digits hdigits => exact hdigits
  | _ => trivial

theorem SpellAll.hasIntegerText {kinds : List OperandKind} {words : List String}
    {operands : List Operand} (h : SpellAll kinds words operands) :
    ∀ operand ∈ operands, operand.HasIntegerText := by
  induction h with
  | nil => simp
  | cons hword _ ih => exact List.forall_mem_cons.2 ⟨hword.hasIntegerText, ih⟩

/-- Lines that are instructions are calls with numbers in the place of numbers. -/
theorem exists_calls_of_instructionLine {lines : List (List String)}
    {instructions : List Instruction} (h : List.Forall₂ InstructionLine lines instructions) :
    ∃ calls : List AppendCall, instructions = calls.map AppendCall.instruction ∧
      ∀ call ∈ calls, call.HasIntegerTexts := by
  induction h with
  | nil => exact ⟨[], rfl, List.forall_mem_nil _⟩
  | cons hline _ ih =>
    obtain ⟨order, opcode, operands, -, hoperands⟩ := hline
    obtain ⟨calls, rfl, hcalls⟩ := ih
    exact ⟨⟨order, opcode, operands⟩ :: calls, rfl,
      List.forall_mem_cons.2 ⟨hoperands.hasIntegerText, hcalls⟩⟩

/-- What was built holds the calls that were accepted. -/
theorem DocumentBuilder.Built.exists_calls {builder : DocumentBuilder} (h : builder.Built) :
    ∃ calls : List AppendCall,
      builder.finish = ⟨"IPPcode23", calls.map AppendCall.instruction⟩ ∧
      ∀ call ∈ calls, call.HasIntegerTexts := by
  induction h with
  | begin => exact ⟨[], rfl, List.forall_mem_nil _⟩
  | append call _ hcall happend ih =>
    obtain ⟨calls, hfinish, hcalls⟩ := ih
    obtain ⟨-, rfl⟩ := append_eq_ok_iff.1 happend
    refine ⟨calls ++ [call], ?_, List.forall_mem_append.2 ⟨hcalls, by simpa using hcall⟩⟩
    have hlanguage := congrArg Document.language hfinish
    have hinstructions := congrArg Document.instructions hfinish
    rw [finish_push, hinstructions, List.map_append, List.map_singleton]
    exact congrArg (Document.mk · _) hlanguage

/-- A document that can be printed was made of calls, with numbers in the place of numbers. -/
theorem Document.Printable.exists_calls {document : Document} (h : document.Printable) :
    ∃ calls : List AppendCall, document = ⟨"IPPcode23", calls.map AppendCall.instruction⟩ ∧
      ∀ call ∈ calls, call.HasIntegerTexts := by
  cases h with
  | built h => exact h.exists_calls
  | validated h =>
    obtain ⟨-, ⟨_, _, _, _, hlines⟩, -, hlanguage⟩ := validate_eq_ok_iff_program.1 h
    obtain ⟨calls, hinstructions, hcalls⟩ := exists_calls_of_instructionLine hlines
    obtain ⟨language, instructions⟩ := document
    obtain rfl : language = "IPPcode23" := hlanguage
    obtain rfl : instructions = calls.map AppendCall.instruction := hinstructions
    exact ⟨calls, rfl, hcalls⟩

/-- **The XML text determines the program.** A document is made of calls, and it is these calls that
are read back from its text: their numbers, their opcodes, and the types and texts of their
operands. So two documents with the same text are the same. -/
theorem xml_determines_document {document other : Document} (h : document.Printable)
    (hother : other.Printable) :
    (∃ calls : List AppendCall, document.instructions = calls.map AppendCall.instruction) ∧
      (∀ calls : List AppendCall, document.instructions = calls.map AppendCall.instruction →
        Markup.readDocument document.render =
          some ⟨document.language, calls.map AppendCall.element⟩) ∧
      (document.render = other.render → document = other) := by
  obtain ⟨calls, rfl, hcalls⟩ := h.exists_calls
  obtain ⟨calls', rfl, hcalls'⟩ := hother.exists_calls
  have hlanguage : '"' ∉ "IPPcode23".toList := by decide
  have hread := Markup.readDocument_render hlanguage hcalls
  have hread' := Markup.readDocument_render hlanguage hcalls'
  refine ⟨⟨calls, rfl⟩, fun made hmade ↦ ?_, fun heq ↦ ?_⟩
  · rwa [← List.map_injective_iff.2 AppendCall.instruction_injective hmade]
  · rw [heq, hread'] at hread
    have helements := congrArg Markup.ProgramElement.instructions (Option.some.inj hread)
    rw [List.map_injective_iff.2 AppendCall.element_injective helements]

/-- A label that imitates the end of its element, from the builder, and a validated program. -/
theorem xml_determines_document_imitation :
    Markup.readDocument
        (Document.render ⟨"IPPcode23", [.ofOperands 1 .label [.label "</arg1>&lt;\n\""]]⟩) =
      some ⟨"IPPcode23", [⟨1, .label, [⟨"label", "</arg1>&lt;\n\""⟩]⟩]⟩ ∧
    (Document.render ⟨"IPPcode23", [.ofOperands 1 .label [.label "</arg1>&lt;\n\""]]⟩ =
        Document.render ⟨"IPPcode23", [.ofOperands 1 .write [.constant (.int "-01")]]⟩ →
      (⟨"IPPcode23", [.ofOperands 1 .label [.label "</arg1>&lt;\n\""]]⟩ : Document) =
        ⟨"IPPcode23", [.ofOperands 1 .write [.constant (.int "-01")]]⟩) := by
  have hcall : AppendCall.HasIntegerTexts ⟨1, .label, [.label "</arg1>&lt;\n\""]⟩ := by
    simp [AppendCall.HasIntegerTexts, Operand.HasIntegerText]
  have hbuilt : Document.Printable
      ⟨"IPPcode23", [.ofOperands 1 .label [.label "</arg1>&lt;\n\""]]⟩ :=
    .built (.append _ .begin hcall (DocumentBuilder.append_of_eq rfl))
  have hword : Spells .symb "int@-01" (.constant (.int "-01")) :=
    spells_constant_iff.2 ⟨by decide, isDecimalInteger_eq_true_iff.1 (by decide)⟩
  have hlines : ∃ header body, wordLines ".IPPcode23\nWRITE int@-01" = [header] :: body ∧
      Text.upperCase header = ".IPPCODE23" ∧
      List.Forall₂ InstructionLine body [.ofOperands 1 .write [.constant (.int "-01")]] :=
    ⟨".IPPcode23", [["WRITE", "int@-01"]], by decide, by decide,
      .cons (.mk 1 .write _ (by decide) (.cons hword .nil)) .nil⟩
  have hvalidated : Document.Printable
      ⟨"IPPcode23", [.ofOperands 1 .write [.constant (.int "-01")]]⟩ :=
    .validated (validate_eq_ok_iff_program.2 ⟨by decide, hlines, rfl, rfl⟩)
  obtain ⟨-, hread, hsame⟩ := xml_determines_document hbuilt hvalidated
  exact ⟨hread [⟨1, .label, [.label "</arg1>&lt;\n\""]⟩] rfl, hsame⟩

end IppCode
