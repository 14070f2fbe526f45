import IppCode.Proofs.Markup.Recovery

/-!
# The characters of XML forms

An XML form declares itself to be XML 1.0, and XML 1.0 does not allow every character (`XmlChar`).
Most control characters are not allowed, and these are refused outside comments anyway. U+FFFE and
U+FFFF (`BasicPlaneEnd`) are not allowed either, and they are not refused: they are no control
characters, so words are made of them like of any others, and the body of a string may be any word.
No entity stands for them, so they are written as they are.

`xmlText_render_iff` says that nothing else goes wrong. What is not allowed in an XML form is one of
the two and stands in a string, and the XML form of a program is free of them exactly if the program
is, comments apart.

Everything is about one character that is not allowed. The markup holds none and neither do the
keywords of the language, so the character is followed through what is put together of these and of
texts. In the XML form it stands where it stands in the text of an argument
(`Document.mem_render_iff`), and so it does in the words of the program (`Program.exists_mem_iff`).
On either way there is one `iff` for each layer, and both ways meet in the text of the arguments:

```
source ⟶ lines ⟶ words ⟶ operands ⟶ texts of arguments ⟵ arguments ⟵ instructions ⟵ XML form
```

Two of the layers change the text, and neither changes where such a character stands. Escaping
replaces three characters by entities, and all four are allowed; folding the case of a mnemonic
changes letters, and these are allowed as well.
-/

namespace IppCode

/-! ### Characters

Which characters of words are not allowed, and that none of them is in a name or a number. -/

/-- The characters that an XML 1.0 document may hold. -/
def XmlChar (c : Char) : Prop :=
  c.toNat = 0x9 ∨ c.toNat = 0xA ∨ c.toNat = 0xD ∨ (0x20 ≤ c.toNat ∧ c.toNat ≤ 0xD7FF) ∨
    (0xE000 ≤ c.toNat ∧ c.toNat ≤ 0xFFFD) ∨ (0x10000 ≤ c.toNat ∧ c.toNat ≤ 0x10FFFF)
  deriving Decidable

/-- The last two code points of the basic plane. They are not allowed, and they are no control
characters. -/
def BasicPlaneEnd (c : Char) : Prop :=
  c = '\uFFFE' ∨ c = '\uFFFF'
  deriving Decidable

/-- All characters of the text are allowed. -/
def XmlText (text : String) : Prop :=
  ∀ c ∈ text.toList, XmlChar c

instance (text : String) : Decidable (XmlText text) :=
  decidable_of_iff (text.toList.all (decide <| XmlChar ·)) (by simp [XmlText])

/-- Both are outside the ranges of XML 1.0. -/
theorem BasicPlaneEnd.not_xmlChar {c : Char} (h : BasicPlaneEnd c) : ¬ XmlChar c := by
  rcases h with rfl | rfl <;> decide

theorem BasicPlaneEnd.isBlank {c : Char} (h : BasicPlaneEnd c) : isBlank c = false := by
  rcases h with rfl | rfl <;> decide

/-- Of the characters that words are made of, only these two are not allowed. -/
theorem basicPlaneEnd_of_isWordChar {c : Char} (hc : ¬ XmlChar c) (hword : isWordChar c = true) :
    BasicPlaneEnd c := by
  obtain ⟨-, -, hblank, hstray⟩ := isWordChar_eq_true_iff.1 hword
  have hvalid : c.toNat < 0xD800 ∨ (0xDFFF < c.toNat ∧ c.toNat < 0x110000) := c.valid
  -- a form feed is no control character here, but a blank
  have hfeed : c.toNat ≠ 0xC := by
    intro hfeed
    obtain rfl : c = '\x0c' := Char.toNat_inj.1 hfeed
    exact absurd hblank (by decide)
  have hend : c.toNat = 0xFFFE ∨ c.toNat = 0xFFFF := by
    simp only [XmlChar] at hc
    simp only [isStray, Bool.or_eq_false_iff, Bool.and_eq_false_iff, decide_eq_false_iff_not]
      at hstray
    omega
  exact hend.imp (Char.toNat_inj.1 ·) (Char.toNat_inj.1 ·)

/-- Printable ASCII characters are allowed. -/
theorem xmlChar_of_toNat {c : Char} (hlow : 0x20 ≤ c.toNat) (hhigh : c.toNat ≤ 0x7E) :
    XmlChar c :=
  .inr (.inr (.inr (.inl ⟨hlow, Nat.le_trans hhigh (by decide)⟩)))

theorem IsDigit.xmlChar {c : Char} (h : IsDigit c) : XmlChar c :=
  xmlChar_of_toNat h.printable.1 h.printable.2

theorem IsNameStart.xmlChar {c : Char} (h : IsNameStart c) : XmlChar c :=
  xmlChar_of_toNat h.printable.1 h.printable.2

theorem Identifier.xmlText {name : String} (h : Identifier name) : XmlText name := fun _ hc ↦
  xmlChar_of_toNat (h.printable hc).1 (h.printable hc).2

theorem IntegerText.xmlText {text : String} (h : IntegerText text) : XmlText text := by
  obtain ⟨sign, hsign, digits, htext, -, hdigits⟩ := h
  have hsigns : ∀ sign ∈ [[], ['+'], ['-']], sign ⊆ "+-".toList := by decide
  have hchars : XmlText "+-" := by decide
  rw [XmlText, htext]
  exact List.forall_mem_append.2
    ⟨fun c hc ↦ hchars c (hsigns sign hsign hc), fun d hd ↦ (hdigits d hd).xmlChar⟩

theorem xmlText_toString (n : Nat) : XmlText (toString n) := by
  have hdigits : (toString n).toList = Nat.toDigits 10 n := Nat.toList_repr
  rw [XmlText, hdigits]
  exact fun c hc ↦ (isDigit_eq_true_iff.1
    (Nat.isDigit_of_mem_toDigits (by decide) (by decide) hc)).xmlChar

/-! ### Keywords

All texts that the language itself contributes are allowed; they are checked one by one. -/

theorem Opcode.xmlText_mnemonic (opcode : Opcode) : XmlText opcode.mnemonic := by
  cases opcode <;> decide

theorem Frame.xmlText_keyword (frame : Frame) : XmlText frame.keyword := by
  cases frame <;> decide

theorem TypeName.xmlText_keyword (type : TypeName) : XmlText type.keyword := by
  cases type <;> decide

theorem ConstantType.xmlText_keyword (type : ConstantType) : XmlText type.keyword := by
  cases type <;> decide

theorem ArgumentType.xmlText_keyword (kind : ArgumentType) : XmlText kind.keyword := by
  cases kind <;> decide

section

variable {c : Char}

theorem not_mem_of_xmlText (hc : ¬ XmlChar c) {text : String} (h : XmlText text) :
    c ∉ text.toList := fun hmem ↦
  hc (h c hmem)

/-! ### In the XML form

The markup around a text holds allowed characters only, so a character that is not allowed stands in
an element exactly if it stands in what is rendered there. One lemma for each kind of element. -/

/-- What is not allowed is not escaped, and nothing is escaped to it. -/
theorem Markup.mem_escape_iff (hc : ¬ XmlChar c) (text : String) :
    c ∈ (escape text).toList ↔ c ∈ text.toList := by
  have hentity : ∀ (d : Char) (entity : String), XmlChar d → XmlText entity →
      (c ∈ entity.toList ↔ c = d) := fun d entity hd hentity ↦
    iff_of_false (not_mem_of_xmlText hc hentity) fun heq ↦ hc (heq ▸ hd)
  have hchar : ∀ d, c ∈ (escapeChar d).toList ↔ c = d := by
    intro d
    rw [escapeChar]
    split
    · subst d
      exact hentity '&' "&amp;" (by decide) (by decide)
    split
    · subst d
      exact hentity '<' "&lt;" (by decide) (by decide)
    split
    · subst d
      exact hentity '>' "&gt;" (by decide) (by decide)
    · simp
  simp only [escape, String.toList_join, List.mem_flatMap, List.mem_map, exists_exists_and_eq_and,
    hchar, exists_eq_right']

namespace Argument

/-- In an argument it stands where it stands in the text of the operand. -/
theorem mem_ofOperand_iff (hc : ¬ XmlChar c) (operand : Operand) :
    c ∈ (ofOperand operand).text.toList ↔ c ∈ operand.element.text.toList := by
  rcases operand with v | (digits | value | body | -) | name | t
  · exact Markup.mem_escape_iff hc v.text
  · exact Iff.rfl
  · exact Iff.rfl
  · exact Markup.mem_escape_iff hc body
  · exact Iff.rfl
  · exact Markup.mem_escape_iff hc name
  · exact Iff.rfl

/-- The markup around the text of an argument holds no such character. -/
theorem mem_render_iff (hc : ¬ XmlChar c) (position : Nat) (argument : Argument) :
    c ∈ (argument.render position).toList ↔ c ∈ argument.text.toList := by
  have hposition := not_mem_of_xmlText hc (xmlText_toString position)
  have htype := not_mem_of_xmlText hc argument.kind.xmlText_keyword
  unfold render
  simp (disch := decide) only [String.toList_append, Markup.toString_eq_self, List.mem_append,
    hposition, htype, not_mem_of_xmlText hc, false_or, or_false]

/-- The positions of arguments are digits, so it does not matter where an argument stands. -/
theorem mem_renderFrom_iff (hc : ¬ XmlChar c) (position : Nat) (arguments : List Argument) :
    c ∈ (renderFrom position arguments).toList ↔
      ∃ argument ∈ arguments, c ∈ argument.text.toList := by
  induction arguments generalizing position with
  | nil => simp [renderFrom]
  | cons argument arguments ih =>
    rw [renderFrom, String.toList_append, List.mem_append, mem_render_iff hc, ih,
      List.exists_mem_cons_iff]

end Argument

/-- The number and the mnemonic of an instruction hold no such character, so only the arguments
count. -/
theorem Instruction.mem_render_iff (hc : ¬ XmlChar c) (instruction : Instruction) :
    c ∈ instruction.render.toList ↔
      ∃ argument ∈ instruction.arguments, c ∈ argument.text.toList := by
  have horder := not_mem_of_xmlText hc (xmlText_toString instruction.order)
  have hopcode := not_mem_of_xmlText hc instruction.opcode.xmlText_mnemonic
  unfold render
  simp (disch := decide) only [String.toList_append, Markup.toString_eq_self, List.mem_append,
    horder, hopcode, Argument.mem_renderFrom_iff hc, not_mem_of_xmlText hc, false_or, or_false]

/-- What is not allowed stands in an XML form where it stands in the text of an argument, if it does
not stand in the name of the language. -/
theorem Document.mem_render_iff (hc : ¬ XmlChar c) {document : Document}
    (hlanguage : c ∉ document.language.toList) :
    c ∈ document.render.toList ↔ ∃ instruction ∈ document.instructions,
      ∃ argument ∈ instruction.arguments, c ∈ argument.text.toList := by
  unfold render
  simp (disch := decide) only [String.toList_append, Markup.toString_eq_self, List.mem_append,
    hlanguage, not_mem_of_xmlText hc, false_or, or_false, String.toList_join, List.mem_flatMap,
    List.mem_map, exists_exists_and_eq_and, Instruction.mem_render_iff hc]

/-! ### In operands

An operand is a keyword or a name, and allowed throughout, or a number, or else it is a string. -/

/-- Behind the tag, a constant is its body. -/
theorem Operand.mem_text_iff (hc : ¬ XmlChar c) (operand : Operand) :
    c ∈ operand.text.toList ↔ c ∈ operand.element.text.toList := by
  rcases operand with v | constant | name | t
  · exact Iff.rfl
  · have htype := not_mem_of_xmlText hc constant.type.xmlText_keyword
    simp (disch := decide) only [text, element, Constant.text, String.toList_append,
      List.mem_append, htype, not_mem_of_xmlText hc, false_or]
  · exact Iff.rfl
  · exact Iff.rfl

theorem Variable.xmlText (v : Variable) : XmlText v.text := by
  have hname := (isIdentifier_eq_true_iff.1 v.name_isIdentifier).xmlText
  have hat : XmlText "@" := by decide
  rw [Variable.text, XmlText, String.toList_append, String.toList_append]
  exact List.forall_mem_append.2
    ⟨List.forall_mem_append.2 ⟨v.frame.xmlText_keyword, hat⟩, hname⟩

/-- What is not allowed stands in strings only, and there it is one of two characters. -/
theorem Operand.WellFormed.exists_string (hc : ¬ XmlChar c) {kind : OperandKind}
    {operand : Operand} (h : WellFormed kind operand) (hmem : c ∈ operand.element.text.toList) :
    BasicPlaneEnd c ∧ ∃ body, operand = .constant (.string body) ∧ c ∈ body.toList := by
  have hno : ∀ text, XmlText text → c ∉ text.toList := fun _ ↦ not_mem_of_xmlText hc
  cases h with
  | var v => exact absurd hmem (hno _ v.xmlText)
  | symbVar v => exact absurd hmem (hno _ v.xmlText)
  | int digits hdigits => exact absurd hmem (hno _ hdigits.xmlText)
  | bool value => exact absurd hmem (hno _ (by cases value <;> decide))
  | string body hescaped hchars =>
    exact ⟨basicPlaneEnd_of_isWordChar hc (hchars c hmem), body, rfl, hmem⟩
  | nil => exact absurd hmem (hno _ (by decide))
  | label name hname => exact absurd hmem (hno _ hname.xmlText)
  | type t => exact absurd hmem (hno _ t.xmlText_keyword)

/-! ### In the source

The same for the words of a source. Splitting a text drops separators, which are allowed characters,
so what is not allowed is never lost. -/

/-- What is no separator stands in a piece between separators. -/
theorem exists_mem_splitOnP {α : Type} {p : α → Bool} {x : α} (hx : p x = false) {xs : List α}
    (h : x ∈ xs) : ∃ piece ∈ xs.splitOnP p, x ∈ piece := by
  induction xs with
  | nil => exact absurd h List.not_mem_nil
  | cons y xs ih =>
    rw [List.splitOnP_cons_eq_if_modifyHead]
    rcases hy : p y with - | -
    · -- the head belongs to the first piece of what is behind it
      obtain ⟨first, more, hsplit⟩ := List.exists_cons_of_ne_nil (List.splitOnP_ne_nil p xs)
      rw [hsplit] at ih
      rw [hsplit, if_neg Bool.false_ne_true, List.modifyHead_cons]
      rcases List.mem_cons.1 h with rfl | hmem
      · exact ⟨_, List.mem_cons_self, List.mem_cons_self⟩
      · obtain ⟨piece, hpiece, hxpiece⟩ := ih hmem
        rcases List.mem_cons.1 hpiece with rfl | hpiece
        · exact ⟨_, List.mem_cons_self, List.mem_cons_of_mem y hxpiece⟩
        · exact ⟨piece, List.mem_cons_of_mem _ hpiece, hxpiece⟩
    · rcases List.mem_cons.1 h with rfl | hmem
      · cases hy.symm.trans hx
      · obtain ⟨piece, hpiece, hxpiece⟩ := ih hmem
        exact ⟨piece, List.mem_cons_of_mem _ hpiece, hxpiece⟩

/-- The characters of the words of a line are those that are no blanks. -/
theorem exists_mem_words_iff {line : List Char} :
    (∃ word ∈ words line, c ∈ word.toList) ↔ c ∈ line ∧ isBlank c = false := by
  constructor
  · rintro ⟨word, hword, hmem⟩
    obtain ⟨piece, hpiece, rfl⟩ := List.mem_map.1 hword
    rw [String.toList_ofList] at hmem
    exact mem_of_mem_splitOnP (List.mem_filter.1 hpiece).1 hmem
  · rintro ⟨hmem, hblank⟩
    obtain ⟨piece, hpiece, hmem⟩ := exists_mem_splitOnP hblank hmem
    refine ⟨String.ofList piece, List.mem_map_of_mem (List.mem_filter.2 ⟨hpiece, ?_⟩), ?_⟩
    · exact decide_eq_true (List.ne_nil_of_mem hmem)
    · rwa [String.toList_ofList]

/-- The characters of the words of a source are those of its lines that are no blanks. -/
theorem exists_mem_wordLines_iff {source : String} :
    (∃ line ∈ wordLines source, ∃ word ∈ line, c ∈ word.toList) ↔
      (∃ line ∈ sourceLines source, c ∈ uncommented line) ∧ isBlank c = false := by
  constructor
  · rintro ⟨line, hline, hword⟩
    obtain ⟨text, htext, rfl⟩ := List.mem_map.1 (List.mem_filter.1 hline).1
    exact ⟨⟨text, htext, (exists_mem_words_iff.1 hword).1⟩, (exists_mem_words_iff.1 hword).2⟩
  · rintro ⟨⟨text, htext, hmem⟩, hblank⟩
    obtain ⟨word, hword, hmem⟩ := exists_mem_words_iff.2 ⟨hmem, hblank⟩
    refine ⟨words (uncommented text), List.mem_filter.2 ⟨List.mem_map_of_mem htext, ?_⟩, word,
      hword, hmem⟩
    exact decide_eq_true (List.ne_nil_of_mem hword)

/-- Only letters have a case, and they are allowed. -/
theorem mem_iff_of_sameIgnoringCase_of_not_xmlChar (hc : ¬ XmlChar c) {a b : String}
    (h : Text.sameIgnoringCase a b = true) : c ∈ a.toList ↔ c ∈ b.toList := by
  refine Text.mem_iff_of_sameIgnoringCase h (Bool.eq_false_iff.2 fun halpha ↦ hc ?_)
  exact IsNameStart.xmlChar (isNameStart_eq_true_iff.1 (by rw [isNameStart, halpha, Bool.true_or]))

/-- An operand is spelled by its text. -/
theorem Spells.text_eq {kind : OperandKind} {word : String} {operand : Operand}
    (h : Spells kind word operand) : operand.text = word := by
  cases h <;> rfl

/-- Operands are spelled by their texts, one word each. -/
theorem SpellAll.map_text {kinds : List OperandKind} {words : List String}
    {operands : List Operand} (h : SpellAll kinds words operands) :
    operands.map Operand.text = words := by
  induction h with
  | nil => rfl
  | cons hword _ ih => rw [List.map_cons, hword.text_eq, ih]

/-- What is not allowed stands in the words of a line where it stands in the text of an argument. -/
theorem InstructionLine.exists_mem_iff (hc : ¬ XmlChar c) {line : List String}
    {instruction : Instruction} (h : InstructionLine line instruction) :
    (∃ word ∈ line, c ∈ word.toList) ↔
      ∃ argument ∈ instruction.arguments, c ∈ argument.text.toList := by
  obtain @⟨mnemonic, operandWords, order, opcode, operands, hmnemonic, hoperands⟩ := h
  have hopcode : c ∉ mnemonic.toList := by
    rw [← mem_iff_of_sameIgnoringCase_of_not_xmlChar hc (upperCase_eq_mnemonic_iff.1 hmnemonic)]
    exact not_mem_of_xmlText hc opcode.xmlText_mnemonic
  simp only [← hoperands.map_text, List.exists_mem_cons_iff, hopcode, false_or, List.mem_map,
    exists_exists_and_eq_and, Operand.mem_text_iff hc, Instruction.ofOperands,
    Argument.mem_ofOperand_iff hc]

theorem exists_mem_instructionLines_iff (hc : ¬ XmlChar c) {lines : List (List String)}
    {instructions : List Instruction} (h : List.Forall₂ InstructionLine lines instructions) :
    (∃ line ∈ lines, ∃ word ∈ line, c ∈ word.toList) ↔
      ∃ instruction ∈ instructions, ∃ argument ∈ instruction.arguments,
        c ∈ argument.text.toList := by
  induction h with
  | nil => simp
  | cons hline _ ih =>
    rw [List.exists_mem_cons_iff, List.exists_mem_cons_iff, hline.exists_mem_iff hc, ih]

/-- What is not allowed stands in the words of a program where it stands in the text of an
argument. -/
theorem Program.exists_mem_iff (hc : ¬ XmlChar c) {source : String} {document : Document}
    (h : Program source document) :
    (∃ line ∈ wordLines source, ∃ word ∈ line, c ∈ word.toList) ↔
      ∃ instruction ∈ document.instructions, ∃ argument ∈ instruction.arguments,
        c ∈ argument.text.toList := by
  obtain ⟨header, body, hlines, hheader, hbody⟩ := h.lines
  have hno : c ∉ header.toList := by
    rw [mem_iff_of_sameIgnoringCase_of_not_xmlChar hc (upperCase_eq_headerText_iff.1 hheader)]
    exact not_mem_of_xmlText hc (by decide)
  rw [hlines, List.exists_mem_cons_iff, exists_mem_instructionLines_iff hc hbody]
  simp [hno]

end

/-! ### Programs and their XML forms

The two ways meet in the operands of the statements, which are printed into the XML form and read
from the source. -/

/-- Numbering leaves the operands of a statement as they are. -/
theorem exists_statement_of_mem_numberedFrom {order : Nat} {statements : List Statement}
    {instruction : Instruction} (h : instruction ∈ numberedFrom order statements) :
    ∃ statement ∈ statements,
      instruction.arguments = statement.operands.map Argument.ofOperand := by
  induction statements generalizing order with
  | nil => cases h
  | cons statement statements ih =>
    rcases List.mem_cons.1 h with rfl | hmem
    · exact ⟨statement, List.mem_cons_self, rfl⟩
    · obtain ⟨other, hother, harguments⟩ := ih hmem
      exact ⟨other, List.mem_cons_of_mem _ hother, harguments⟩

/-- What is not allowed in an XML form is one of two characters, and stands in a string. -/
theorem exists_string_of_mem_render {source : String} {document : Document}
    (h : validate source = .ok document) {c : Char} (hc : ¬ XmlChar c)
    (hmem : c ∈ document.render.toList) :
    BasicPlaneEnd c ∧ ∃ instruction ∈ document.instructions, ∃ body,
      Argument.ofOperand (.constant (.string body)) ∈ instruction.arguments ∧
        c ∈ body.toList := by
  obtain ⟨statements, rfl, hstatements⟩ := exists_statements_of_validate h
  have hlanguage : c ∉ Document.languageName.toList := not_mem_of_xmlText hc (by decide)
  obtain ⟨instruction, hinstruction, argument, hargument, hmem⟩ :=
    (Document.mem_render_iff hc hlanguage).1 hmem
  obtain ⟨statement, hstatement, harguments⟩ := exists_statement_of_mem_numberedFrom hinstruction
  rw [harguments] at hargument
  obtain ⟨operand, hoperand, rfl⟩ := List.mem_map.1 hargument
  obtain ⟨kind, hkind⟩ := (hstatements statement hstatement).exists_kind hoperand
  obtain ⟨hend, body, rfl, hbody⟩ :=
    hkind.exists_string hc ((Argument.mem_ofOperand_iff hc operand).1 hmem)
  refine ⟨hend, instruction, hinstruction, body, ?_, hbody⟩
  rw [harguments]
  exact List.mem_map_of_mem hoperand

/-- **The characters of XML forms.** All characters in the XML form of a program are allowed exactly
if neither U+FFFE nor U+FFFF stands in the program outside comments. A character that is not allowed
is one of these two, and it stands in a string. -/
theorem xmlText_render_iff {source : String} {document : Document}
    (h : validate source = .ok document) :
    ((∀ c ∈ document.render.toList, XmlChar c) ↔
      ∀ line ∈ sourceLines source, ∀ c ∈ uncommented line, ¬ BasicPlaneEnd c) ∧
    ∀ c ∈ document.render.toList, XmlChar c ∨ BasicPlaneEnd c ∧
      ∃ instruction ∈ document.instructions, ∃ body,
        Argument.ofOperand (.constant (.string body)) ∈ instruction.arguments ∧
          c ∈ body.toList := by
  have hprogram := validate_eq_ok_iff_program.1 h
  have hstring : ∀ c ∈ document.render.toList, XmlChar c ∨ BasicPlaneEnd c ∧
      ∃ instruction ∈ document.instructions, ∃ body,
        Argument.ofOperand (.constant (.string body)) ∈ instruction.arguments ∧
          c ∈ body.toList := fun c hmem ↦
    (em (XmlChar c)).imp_right fun hc ↦ exists_string_of_mem_render h hc hmem
  have hsource : ∀ c, BasicPlaneEnd c → (c ∈ document.render.toList ↔
      ∃ line ∈ sourceLines source, c ∈ uncommented line) := fun c hc ↦ by
    have hlanguage : c ∉ document.language.toList :=
      not_mem_of_xmlText hc.not_xmlChar (hprogram.language ▸ by decide)
    rw [Document.mem_render_iff hc.not_xmlChar hlanguage, ← hprogram.exists_mem_iff hc.not_xmlChar,
      exists_mem_wordLines_iff, and_iff_left hc.isBlank]
  refine ⟨⟨fun hall line hline c hmem hc ↦ ?_, fun hnone c hmem ↦ ?_⟩, hstring⟩
  · exact hc.not_xmlChar (hall c ((hsource c hc).2 ⟨line, hline, hmem⟩))
  · refine (hstring c hmem).resolve_right fun ⟨hc, _⟩ ↦ ?_
    obtain ⟨line, hline, hmem⟩ := (hsource c hc).1 hmem
    exact hnone line hline c hmem hc

/-- In a comment anything may stand. -/
theorem xmlText_render_commented :
    validate ".IPPcode23\nWRITE string@<\u00E9> # \uFFFE" =
      .ok ⟨"IPPcode23", [.ofOperands 1 .write [.constant (.string "<\u00E9>")]]⟩ ∧
    ∀ c ∈ (Document.render
        ⟨"IPPcode23", [.ofOperands 1 .write [.constant (.string "<\u00E9>")]]⟩).toList,
      XmlChar c := by
  have hvalidate : validate ".IPPcode23\nWRITE string@<\u00E9> # \uFFFE" =
      .ok ⟨"IPPcode23", [.ofOperands 1 .write [.constant (.string "<\u00E9>")]]⟩ :=
    validate_eq_ok_iff_feed.2 (by rw [scan_eq_lineResults (by decide)]; rfl)
  have hnone : (sourceLines ".IPPcode23\nWRITE string@<\u00E9> # \uFFFE").all fun line ↦
      (uncommented line).all fun c ↦ !decide (BasicPlaneEnd c) := by decide
  exact ⟨hvalidate, (xmlText_render_iff hvalidate).1.2 (by simpa using hnone)⟩

/-- In a string U+FFFE is accepted, and it stands in the XML form as it is. -/
theorem not_xmlText_render :
    ¬ ∀ (source : String) (document : Document), validate source = .ok document →
      ∀ c ∈ document.render.toList, XmlChar c := by
  intro h
  have hvalidate : validate ".IPPcode23\nWRITE string@\uFFFE" =
      .ok ⟨"IPPcode23", [.ofOperands 1 .write [.constant (.string "\uFFFE")]]⟩ :=
    validate_eq_ok_iff_feed.2 (by rw [scan_eq_lineResults (by decide)]; rfl)
  have hc : ¬ XmlChar '\uFFFE' := by decide
  have hlanguage : '\uFFFE' ∉ "IPPcode23".toList := by decide
  have hmem : '\uFFFE' ∈ (Document.render
      ⟨"IPPcode23", [.ofOperands 1 .write [.constant (.string "\uFFFE")]]⟩).toList :=
    (Document.mem_render_iff hc hlanguage).2
      ⟨_, List.mem_singleton_self _, _, List.mem_singleton_self _, by decide⟩
  exact hc (h _ _ hvalidate _ hmem)

end IppCode
