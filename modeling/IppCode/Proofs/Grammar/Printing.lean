import IppCode.Proofs.Grammar.Language

/-!
# Printing programs

Instructions are printed one a line behind the header, mnemonic and operands with single spaces
between (`printed`). Whatever well-formed instructions are printed, the source is accepted, and its
document is the one that a builder makes of them (`validate_printed`).

A well-formed operand is spelled by its text (`Operand.WellFormed.spells`), which is a word without
anything that could end it (`BareWord`), so the words of a line are those that it was joined from
(`words_intercalate`). That the text is taken for nothing else in its place, a label for an opcode
or a string for a variable, is in `spells_iff`.

Well-formedness is about single operands, with a clause for each kind that can be called for, and an
operand can be well-formed for one kind and not for another: a variable stands where a value is
called for as well, and a label that is also the name of a type does not stand where a type is.

The builder is not needed in order to state what the document is: it is `numberedFrom 1`. But it is
the way in which documents are made, and `built_eq_ok` says that nothing well-formed or otherwise is
refused there, as long as the numbers are given one after the other.
-/

namespace IppCode

/-! ### Well-formed instructions

What can be printed and read again. Well-formedness is stated for operands that are data already; it
does not mention lines, or what a word is taken for. -/

/-- The operand is well-formed and can stand where one of the kind is called for. The names of
variables are identifiers by their type. -/
inductive Operand.WellFormed : OperandKind → Operand → Prop
  | var (v : Variable) : WellFormed .var (.var v)
  /-- A variable is a symbol as well. -/
  | symbVar (v : Variable) : WellFormed .symb (.var v)
  /-- Numbers are kept as they are written, so their digits have to be digits. -/
  | int (digits : String) (hdigits : IntegerText digits) :
    WellFormed .symb (.constant (.int digits))
  | bool (value : Bool) : WellFormed .symb (.constant (.bool value))
  /-- Strings are kept as they are written, so there must be nothing in them that ends a word. -/
  | string (body : String) (hescaped : EscapedText body)
      (hchars : ∀ c ∈ body.toList, isWordChar c = true) :
    WellFormed .symb (.constant (.string body))
  | nil : WellFormed .symb (.constant .nil)
  /-- A label may have the name of a type, which is an identifier too. -/
  | label (name : String) (hname : Identifier name) : WellFormed .label (.label name)
  | type (type : TypeName) : WellFormed .type (.type type)

/-- An instruction that has no number yet. -/
structure Statement where
  /-- The opcode, which is printed in upper case. -/
  opcode : Opcode
  /-- The operands, which are to be those that the opcode calls for. -/
  operands : List Operand
  deriving DecidableEq

namespace Statement

/-- The operands are well-formed and of exactly the kinds that the opcode calls for. -/
def WellFormed (statement : Statement) : Prop :=
  List.Forall₂ Operand.WellFormed statement.opcode.operandKinds statement.operands

/-- The words that the statement is written with. -/
def words (statement : Statement) : List String :=
  statement.opcode.mnemonic :: statement.operands.map Operand.text

/-- The statement under a number. -/
def numbered (statement : Statement) (order : Nat) : Instruction :=
  .ofOperands order statement.opcode statement.operands

end Statement

/-- The text of lines with these words, and single spaces between them. -/
def writeLines (lines : List (List String)) : String :=
  String.join (lines.map fun words ↦ " ".intercalate words ++ "\n")

/-- The source that consists of the header and, line by line, of the statements. -/
def printed (statements : List Statement) : String :=
  writeLines ([headerText] :: statements.map Statement.words)

/-- Puts the statements at the end, numbered on from the order. -/
def DocumentBuilder.appendFrom (order : Nat) : List Statement → Building Unit
  | [] => return
  | statement :: statements => do
    append order statement.opcode statement.operands
    appendFrom (order + 1) statements

/-- What a builder makes of the statements, numbered from 1. -/
def built (statements : List Statement) : Except OutOfSequence Document :=
  match DocumentBuilder.appendFrom 1 statements (DocumentBuilder.begin Document.languageName) with
  | .ok _ builder => .ok builder.finish
  | .error refusal _ => .error refusal

/-! ### Building

The builder is given one statement after the other, with the numbers from 1 on. It refuses none of
them, since it asks for the next number and for nothing else. -/

/-- The statements, numbered on from the order. -/
def numberedFrom (order : Nat) : List Statement → List Instruction
  | [] => []
  | statement :: statements => statement.numbered order :: numberedFrom (order + 1) statements

/-- No statement is refused by a builder whose next number it is given. -/
theorem exists_appendFrom (statements : List Statement) (builder : DocumentBuilder) :
    ∃ longer, DocumentBuilder.appendFrom builder.nextOrder statements builder = .ok () longer ∧
      longer.finish = ⟨builder.language,
        builder.finish.instructions ++ numberedFrom builder.nextOrder statements⟩ := by
  induction statements generalizing builder with
  | nil => exact ⟨builder, rfl, by rw [numberedFrom, List.append_nil]; rfl⟩
  | cons statement statements ih =>
    -- the longer builder asks for the number after, which is the one that is given
    obtain ⟨longer, hlonger, hfinish⟩ :=
      ih (builder.push (statement.numbered builder.nextOrder))
    rw [DocumentBuilder.nextOrder_push] at hlonger hfinish
    refine ⟨longer, ?_, ?_⟩
    · show EStateM.bind (DocumentBuilder.append _ _ _) _ builder = _
      rw [EStateM.bind, DocumentBuilder.append_of_eq rfl]
      exact hlonger
    · rw [hfinish, DocumentBuilder.finish_push, numberedFrom, List.append_assoc]
      rfl

/-- A builder takes all the statements, and makes of them what they are when they are numbered from
1. -/
theorem built_eq_ok (statements : List Statement) :
    built statements = .ok ⟨Document.languageName, numberedFrom 1 statements⟩ := by
  obtain ⟨longer, hlonger, hfinish⟩ :=
    exists_appendFrom statements (DocumentBuilder.begin Document.languageName)
  have hbuilt : DocumentBuilder.appendFrom 1 statements
      (DocumentBuilder.begin Document.languageName) = .ok () longer := hlonger
  rw [DocumentBuilder.finish_begin, List.nil_append] at hfinish
  rw [built, hbuilt]
  exact congrArg Except.ok hfinish

/-- The numbers go on from the order without a gap. -/
theorem map_order_numberedFrom (order : Nat) (statements : List Statement) :
    (numberedFrom order statements).map Instruction.order =
      List.range' order (numberedFrom order statements).length := by
  induction statements generalizing order with
  | nil => rfl
  | cons statement statements ih =>
    rw [numberedFrom, List.map_cons, ih, List.length_cons, List.range'_succ]
    rfl

/-! ### Words without separators

Each sort of operand has a text in which nothing ends a word. For texts made of a tag and a body it
is enough that the two have none, since an `@` is an ordinary character of words. -/

/-- The word is not empty, and nothing in it ends a word. -/
def BareWord (word : String) : Prop :=
  word.toList ≠ [] ∧ ∀ c ∈ word.toList, isWordChar c = true

instance (word : String) : Decidable (BareWord word) :=
  decidable_of_iff (word.toList ≠ [] ∧ word.toList.all isWordChar) (by simp [BareWord])

theorem IsDigit.isWordChar {c : Char} (h : IsDigit c) : isWordChar c = true :=
  isWordChar_of_toNat h.1 (Nat.le_trans h.2 (by decide))

theorem IsNameStart.isWordChar {c : Char} (h : IsNameStart c) : isWordChar c = true := by
  rcases h with h | h | h
  · exact isWordChar_of_toNat (Nat.le_trans (by decide) h.1) (Nat.le_trans h.2 (by decide))
  · exact isWordChar_of_toNat (Nat.le_trans (by decide) h.1) h.2
  · have hmarks : "_-$&%*!?".toList.all IppCode.isWordChar = true := by decide
    exact List.all_eq_true.1 hmarks c h

theorem Identifier.bareWord {name : String} (h : Identifier name) : BareWord name := by
  obtain ⟨c, cs, hname, hc, hcs⟩ := h
  rw [BareWord, hname]
  refine ⟨List.cons_ne_nil _ _, List.forall_mem_cons.2 ⟨hc.isWordChar, fun d hd ↦ ?_⟩⟩
  exact (hcs d hd).elim (·.isWordChar) (·.isWordChar)

theorem IntegerText.bareWord {text : String} (h : IntegerText text) : BareWord text := by
  obtain ⟨sign, hsign, digits, htext, hne, hdigits⟩ := h
  have hsigns : [[], ['+'], ['-']].all (List.all · isWordChar) = true := by decide
  rw [BareWord, htext]
  refine ⟨List.append_ne_nil_of_right_ne_nil _ hne, List.forall_mem_append.2 ⟨?_, ?_⟩⟩
  · exact List.all_eq_true.1 (List.all_eq_true.1 hsigns sign hsign)
  · exact fun d hd ↦ (hdigits d hd).isWordChar

/-- A word with a tag may have anything behind it that does not end the word. -/
theorem bareWord_tagged {tag body : String} (htag : BareWord tag)
    (hbody : ∀ c ∈ body.toList, isWordChar c = true) : BareWord (tag ++ "@" ++ body) := by
  rw [BareWord, String.toList_append, String.toList_append]
  refine ⟨by simp, List.forall_mem_append.2 ⟨List.forall_mem_append.2 ⟨htag.2, ?_⟩, hbody⟩⟩
  have hat : "@".toList.all isWordChar = true := by decide
  exact List.all_eq_true.1 hat

/-- A variable is a word: a frame is the tag of its name. -/
theorem Variable.bareWord (v : Variable) : BareWord v.text := by
  have hframe : BareWord v.frame.keyword := by cases v.frame <;> decide
  exact bareWord_tagged hframe (isIdentifier_eq_true_iff.1 v.name_isIdentifier).bareWord.2

/-- A constant is a word if its body holds nothing that ends one. -/
theorem Constant.bareWord {c : Constant} (hbody : ∀ d ∈ c.body.toList, isWordChar d = true) :
    BareWord c.text := by
  have htype : BareWord c.type.keyword := by cases c.type <;> decide
  exact bareWord_tagged htype hbody

namespace Operand.WellFormed

variable {kind : OperandKind} {operand : Operand}

/-- The text of a well-formed operand is a word … -/
theorem bareWord (h : WellFormed kind operand) : BareWord operand.text := by
  cases h with
  | var v => exact v.bareWord
  | symbVar v => exact v.bareWord
  | int digits hdigits => exact Constant.bareWord hdigits.bareWord.2
  | bool value =>
    have hvalue : BareWord (Constant.bool value).body := by cases value <;> decide
    exact Constant.bareWord hvalue.2
  | string body hescaped hchars => exact Constant.bareWord hchars
  | nil =>
    have hnil : BareWord Constant.nil.body := by decide
    exact Constant.bareWord hnil.2
  | label name hname => exact hname.bareWord
  | type t => exact t.identifier_keyword.bareWord

/-- … that spells the operand. -/
theorem spells (h : WellFormed kind operand) : Spells kind operand.text operand := by
  cases h with
  | var v => exact .var v (isIdentifier_eq_true_iff.1 v.name_isIdentifier)
  | symbVar v => exact .symbVar v (isIdentifier_eq_true_iff.1 v.name_isIdentifier)
  | int digits hdigits => exact spells_constant_iff.2 ⟨rfl, hdigits⟩
  | bool value => exact spells_constant_iff.2 ⟨rfl, trivial⟩
  | string body hescaped hchars => exact spells_constant_iff.2 ⟨rfl, hescaped⟩
  | nil => exact spells_constant_iff.2 ⟨rfl, trivial⟩
  | label name hname => exact .label name hname
  | type t => exact .type t

/-- What a word without separators spells is well-formed, and the word is its text. -/
theorem of_spells {word : String} (h : Spells kind word operand) (hword : BareWord word) :
    WellFormed kind operand ∧ operand.text = word := by
  cases h with
  | var v hname => exact ⟨.var v, rfl⟩
  | symbVar v hname => exact ⟨.symbVar v, rfl⟩
  | int digits hdigits => exact ⟨.int digits hdigits, rfl⟩
  | boolTrue => exact ⟨.bool true, rfl⟩
  | boolFalse => exact ⟨.bool false, rfl⟩
  | string body hbody =>
    rw [BareWord, String.toList_append, List.forall_mem_append] at hword
    exact ⟨.string body hbody hword.2.2, rfl⟩
  | nil => exact ⟨.nil, rfl⟩
  | label name hname => exact ⟨.label word hname, rfl⟩
  | type t => exact ⟨.type t, rfl⟩

end Operand.WellFormed

theorem spellAll_of_wellFormed {kinds : List OperandKind} {operands : List Operand}
    (h : List.Forall₂ Operand.WellFormed kinds operands) :
    SpellAll kinds (operands.map Operand.text) operands := by
  induction h with
  | nil => exact .nil
  | cons hoperand _ ih => exact .cons hoperand.spells ih

/-- What words without separators spell is well-formed. -/
theorem wellFormed_of_spellAll {kinds : List OperandKind} {words : List String}
    {operands : List Operand} (h : SpellAll kinds words operands)
    (hwords : ∀ word ∈ words, BareWord word) :
    List.Forall₂ Operand.WellFormed kinds operands := by
  induction h with
  | nil => exact .nil
  | cons hword _ ih =>
    obtain ⟨hbare, hbares⟩ := List.forall_mem_cons.1 hwords
    exact .cons (Operand.WellFormed.of_spells hword hbare).1 (ih hbares)

namespace Statement.WellFormed

variable {statement : Statement}

/-- Every operand is well-formed for some kind. -/
theorem exists_kind (h : statement.WellFormed) {operand : Operand}
    (hoperand : operand ∈ statement.operands) : ∃ kind, operand.WellFormed kind := by
  obtain ⟨i, hi, rfl⟩ := List.mem_iff_getElem.1 hoperand
  exact ⟨_, h.get (h.length_eq ▸ hi) hi⟩

theorem bareWord (h : statement.WellFormed) : ∀ word ∈ statement.words, BareWord word := by
  have hmnemonic : BareWord statement.opcode.mnemonic := by cases statement.opcode <;> decide
  refine List.forall_mem_cons.2 ⟨hmnemonic, List.forall_mem_map.2 fun operand hoperand ↦ ?_⟩
  obtain ⟨kind, hkind⟩ := h.exists_kind hoperand
  exact hkind.bareWord

end Statement.WellFormed

/-! ### Lines of words

Joining words with single spaces and splitting them again gives them back. Lines made of such words
hold no newline, no `#` and no control character, so they stay lines, and there are no comments. -/

theorem toList_intercalate_singleton (word : String) :
    (" ".intercalate [word]).toList = word.toList := by
  rw [String.toList_intercalate, List.map_singleton, List.intercalate_singleton]

theorem toList_intercalate_cons (word next : String) (more : List String) :
    (" ".intercalate (word :: next :: more)).toList =
      word.toList ++ ' ' :: (" ".intercalate (next :: more)).toList := by
  rw [String.toList_intercalate, String.toList_intercalate, List.map_cons, List.map_cons,
    List.intercalate_cons_cons, List.append_assoc]
  rfl

/-- Words that are joined by spaces are found again. -/
theorem words_intercalate {line : List String} (h : ∀ word ∈ line, BareWord word) :
    words (" ".intercalate line).toList = line := by
  induction line with
  | nil => exact words_nil
  | cons word line ih =>
    obtain ⟨⟨hne, hchars⟩, hline⟩ := List.forall_mem_cons.1 h
    have hword := words_toList hne hchars
    -- the last word is followed by nothing, every other one by a space
    rcases line with - | ⟨next, line⟩
    · rw [toList_intercalate_singleton, hword]
    · rw [toList_intercalate_cons, words_append_blank (by decide), hword, ih hline,
        List.singleton_append]

/-- Joined words hold no comment and no control character. -/
theorem isPlain_of_mem_intercalate {line : List String} (h : ∀ word ∈ line, BareWord word) :
    ∀ c ∈ (" ".intercalate line).toList, IsPlain c := by
  induction line with
  | nil => exact List.forall_mem_nil _
  | cons word line ih =>
    obtain ⟨⟨-, hchars⟩, hline⟩ := List.forall_mem_cons.1 h
    have hword : ∀ c ∈ word.toList, IsPlain c := fun c hc ↦ isPlain_of_isWordChar (hchars c hc)
    rcases line with - | ⟨next, line⟩
    · rwa [toList_intercalate_singleton]
    · rw [toList_intercalate_cons, List.forall_mem_append, List.forall_mem_cons]
      exact ⟨hword, isPlain_space, ih hline⟩

section WriteLines

variable {lines : List (List String)}

theorem writeLines_cons (line : List String) :
    (writeLines (line :: lines)).toList =
      (" ".intercalate line).toList ++ '\n' :: (writeLines lines).toList := by
  rw [writeLines, writeLines, String.toList_join, String.toList_join, List.map_cons,
    List.flatMap_cons, String.toList_append, List.append_assoc]
  rfl

/-- Behind the last newline there is an empty line, which is not one of those that were written. -/
theorem sourceLines_writeLines (h : ∀ line ∈ lines, ∀ word ∈ line, BareWord word) :
    sourceLines (writeLines lines) =
      lines.map (fun line ↦ (" ".intercalate line).toList) ++ [[]] := by
  induction lines with
  | nil => rfl
  | cons line lines ih =>
    obtain ⟨hline, hlines⟩ := List.forall_mem_cons.1 h
    have hnewline : '\n' ∉ (" ".intercalate line).toList := fun hmem ↦
      (isPlain_of_mem_intercalate hline _ hmem).1 rfl
    rw [sourceLines, writeLines_cons, Text.splitAt_append_cons hnewline, ← sourceLines, ih hlines]
    rfl

theorem uncommented_intercalate {line : List String} (h : ∀ word ∈ line, BareWord word) :
    uncommented (" ".intercalate line).toList = (" ".intercalate line).toList := by
  rw [uncommented, List.takeWhile_eq_self_iff]
  intro c hc
  simpa using (isPlain_of_mem_intercalate h c hc).2.1

theorem clean_writeLines (h : ∀ line ∈ lines, ∀ word ∈ line, BareWord word) :
    Clean (writeLines lines) := by
  rw [Clean, sourceLines_writeLines h, List.forall_mem_append, List.forall_mem_map]
  refine ⟨fun line hline c hc ↦ ?_, by simp [uncommented]⟩
  rw [uncommented_intercalate (h line hline)] at hc
  exact (isPlain_of_mem_intercalate (h line hline) c hc).2.2

/-- The lines that are written are read. -/
theorem wordLines_writeLines (h : ∀ line ∈ lines, ∀ word ∈ line, BareWord word)
    (hne : ∀ line ∈ lines, line ≠ []) : wordLines (writeLines lines) = lines := by
  have hwords : ∀ line ∈ lines, words (uncommented (" ".intercalate line).toList) = line :=
    fun line hline ↦ by
      rw [uncommented_intercalate (h line hline), words_intercalate (h line hline)]
  have hlines : lines.map ((fun text ↦ words (uncommented text)) ∘
      fun line ↦ (" ".intercalate line).toList) = lines :=
    (List.map_congr_left hwords).trans (List.map_id lines)
  have hfilter : lines.filter (· ≠ []) = lines :=
    List.filter_eq_self.2 fun line hline ↦ decide_eq_true (hne line hline)
  -- behind the last line end there is a line without words
  rw [wordLines, sourceLines_writeLines h, List.map_append, List.map_map, hlines,
    List.filter_append, hfilter]
  exact List.append_nil lines

end WriteLines

/-! ### Printed programs

A printed source has one line for the header and one for each statement, and these are the words of
a program whose document has the statements under their numbers. -/

/-- The words of a well-formed statement are a line for it, under any number. -/
theorem instructionLine_words {statement : Statement} (h : statement.WellFormed) (order : Nat) :
    InstructionLine statement.words (statement.numbered order) :=
  .mk order statement.opcode statement.operands statement.opcode.upperCase_mnemonic
    (spellAll_of_wellFormed h)

theorem forall₂_instructionLine {statements : List Statement}
    (h : ∀ statement ∈ statements, statement.WellFormed) (order : Nat) :
    List.Forall₂ InstructionLine (statements.map Statement.words)
      (numberedFrom order statements) := by
  induction statements generalizing order with
  | nil => exact .nil
  | cons statement statements ih =>
    obtain ⟨hstatement, hstatements⟩ := List.forall_mem_cons.1 h
    exact .cons (instructionLine_words hstatement order) (ih hstatements (order + 1))

/-- **Whatever is well-formed is accepted when it is printed**, and its document is what a builder
makes of it. -/
theorem validate_printed {statements : List Statement}
    (h : ∀ statement ∈ statements, statement.WellFormed) :
    validate (printed statements) = .ok ⟨Document.languageName, numberedFrom 1 statements⟩ := by
  have hheader : BareWord headerText := by decide
  have hbare : ∀ line ∈ [headerText] :: statements.map Statement.words, ∀ word ∈ line,
      BareWord word := by
    refine List.forall_mem_cons.2 ⟨by simpa using hheader, List.forall_mem_map.2 ?_⟩
    exact fun statement hstatement ↦ (h statement hstatement).bareWord
  have hne : ∀ line ∈ [headerText] :: statements.map Statement.words, line ≠ [] :=
    List.forall_mem_cons.2 ⟨List.cons_ne_nil _ _, List.forall_mem_map.2 fun _ _ ↦
      List.cons_ne_nil _ _⟩
  rw [validate_eq_ok_iff_program, printed]
  exact {
    clean := clean_writeLines hbare
    lines := ⟨headerText, statements.map Statement.words, wordLines_writeLines hbare hne,
      by decide, forall₂_instructionLine h 1⟩
    orders := map_order_numberedFrom 1 statements
    language := rfl }

end IppCode
