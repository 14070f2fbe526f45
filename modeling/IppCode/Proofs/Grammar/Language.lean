import IppCode.Parse
import IppCode.Proofs.Grammar.LineScan
import IppCode.Proofs.Validation.Simulation
import IppCode.Proofs.Words.Classification

/-!
# The language of the validator

The sources that are accepted are the programs of the grammar, each with its translation
(`validate_eq_ok_iff_program`).

The results of a scan are examined line by line. The words behind the mnemonic of a line take the
stage of its opcode to the end of the line exactly when they spell the operands
(`feed_operands_iff`), and then the next result, which is not on the line, finds the instruction
complete. So the lines behind a complete one are accepted exactly when each of them that has words
is an instruction (`feed_lines_iff`), by induction on the lines.

That an instruction has all of its operands is noticed only behind its line. A statement about one
line is therefore about the results behind it as well, of which it asks that the first is not on the
line (`OffLine`). The results of later lines are such, and if there is no later line with words then
the end is (`offLine_lineResults`).

The numbers of instructions are no part of a line. A line can be an instruction under any number
(`InstructionLine`), and the list of all of them is numbered on from the instructions in front.
-/

namespace IppCode

/-! ### Results on a line

What a word of a line is scanned to is on that line, be it a token or a failure, and this is all
that has to be known of results behind a line in order to leave it. -/

theorem wordResult_eq_ok_iff {line : Nat} {first : Bool} {word : String} {token : Token} :
    wordResult line first word = .ok token ↔
      TokenKind.ofWord word first = .ok token.kind ∧ token.line = line :=
  Located.result_eq_ok_iff

theorem wordResult_eq_error_iff {line : Nat} {first : Bool} {word : String} {failure : Failure} :
    wordResult line first word = .error failure ↔
      ∃ fault, TokenKind.ofWord word first = .error fault ∧ failure = .lexical line fault :=
  Located.result_eq_error_iff

/-- A token is on the line that its word is on, and on no other. -/
theorem isOn_of_wordResult {line : Nat} {first : Bool} {word : String} {token : Token}
    (h : wordResult line first word = .ok token) (line' : Nat) :
    token.isOn line' = decide (line = line') := by
  have hend := Located.isEnd_of_result_eq_ok h
  have hline := (wordResult_eq_ok_iff.1 h).2
  simp [Token.isOn, hend, hline]

/-- There are results, and the first is no token on the line. -/
def OffLine (line : Nat) (results : List (Except Failure Token)) : Prop :=
  ∃ result more, results = result :: more ∧ ∀ token, result = .ok token → token.isOn line = false

/-- Behind a line comes a token: the first of a later line, or the end. -/
theorem exists_token_lineResults {line line' : Nat} (hlt : line < line') (last : Nat)
    (lines : List (List String)) :
    ∃ token later, lineResults line' lines ++ [.ok ⟨.endOfStream, last⟩] = .ok token :: later ∧
      token.isOn line = false := by
  induction lines generalizing line' with
  | nil => exact ⟨_, [], rfl, by simp [Token.isOn, Token.isEnd]⟩
  | cons words lines ih =>
    rcases words with - | ⟨word, words⟩
    · exact ih (Nat.lt_succ_of_lt hlt)
    · obtain ⟨kind, hkind⟩ := TokenKind.ofWord_leading word
      have hresult : wordResult line' true word = .ok ⟨kind, line'⟩ :=
        wordResult_eq_ok_iff.2 ⟨hkind, rfl⟩
      rw [lineResults_cons_append, hresult]
      refine ⟨_, _, rfl, ?_⟩
      rw [isOn_of_wordResult hresult]
      exact decide_eq_false (by omega)

/-- The results of later lines are off a line, and so is the end. -/
theorem offLine_lineResults {line line' : Nat} (hlt : line < line') (last : Nat)
    (lines : List (List String)) :
    OffLine line (lineResults line' lines ++ [.ok ⟨.endOfStream, last⟩]) := by
  obtain ⟨token, later, heq, hoff⟩ := exists_token_lineResults hlt last lines
  refine ⟨_, later, heq, ?_⟩
  rintro _ ⟨⟩
  exact hoff

/-! ### One line

The words of a line are followed to its end, from the stage of its opcode. By induction on the kinds
that are still called for, both directions at once. -/

/-- Words that spell the operands that are called for complete the instruction. -/
theorem feed_of_spellAll {before : List Instruction} {line : Nat} {opcode : Opcode}
    {found operands : List Operand} {kinds : List OperandKind} {words : List String}
    {rest : List (Except Failure Token)} (hspell : SpellAll kinds words operands) :
    (Stage.instruction before line opcode found kinds).feed
        (words.map (wordResult line false) ++ rest) =
      (Stage.instruction before line opcode (found ++ operands) []).feed rest := by
  induction hspell generalizing found with
  | nil =>
    rw [List.append_nil]
    rfl
  | @cons kind kinds word words operand operands hword hwords ih =>
    obtain ⟨tokenKind, htoken, hoperand⟩ := spells_iff.1 hword
    have hresult : wordResult line false word = .ok ⟨tokenKind, line⟩ :=
      wordResult_eq_ok_iff.2 ⟨htoken, rfl⟩
    have hon := isOn_of_wordResult hresult line
    rw [decide_eq_true rfl] at hon
    have hexamine : (Stage.instruction before line opcode found (kind :: kinds)).examine
        ⟨tokenKind, line⟩ = .ok (.instruction before line opcode (found ++ [operand]) kinds) :=
      Stage.examine_operand_eq_ok_iff.2 ⟨hon, operand, hoperand, rfl⟩
    rw [List.map_cons, List.cons_append, hresult, Stage.feed_ok_cons_of_ok hexamine, ih,
      List.append_assoc, List.singleton_append]

/-- The words behind an opcode complete its instruction exactly when they spell the operands that
are called for. -/
theorem feed_operands_iff {before : List Instruction} {line : Nat} {opcode : Opcode}
    {found : List Operand} {kinds : List OperandKind} {words : List String}
    {rest : List (Except Failure Token)} {stage : Stage} (hrest : OffLine line rest) :
    (Stage.instruction before line opcode found kinds).feed
        (words.map (wordResult line false) ++ rest) = .ok stage ↔
      ∃ operands, SpellAll kinds words operands ∧
        (Stage.instruction before line opcode (found ++ operands) []).feed rest = .ok stage := by
  constructor
  · intro h
    -- the words one by one, against the kinds that are left: neither may run out before the other
    induction words generalizing kinds found with
    | nil =>
      rcases kinds with - | ⟨kind, kinds⟩
      · exact ⟨[], .nil, by rwa [List.append_nil]⟩
      · obtain ⟨result, more, rfl, hoff⟩ := hrest
        obtain ⟨token, next, hresult, hexamine, -⟩ := Stage.feed_cons_eq_ok_iff.1 h
        rw [Stage.examine_operand_eq_ok_iff, hoff token hresult] at hexamine
        cases hexamine.1
    | cons word words ih =>
      obtain ⟨token, next, hresult, hexamine, hnext⟩ := Stage.feed_cons_eq_ok_iff.1 h
      rcases kinds with - | ⟨kind, kinds⟩
      · rw [Stage.examine_complete_eq_ok_iff, isOn_of_wordResult hresult] at hexamine
        simp at hexamine
      · obtain ⟨-, operand, hoperand, rfl⟩ := Stage.examine_operand_eq_ok_iff.1 hexamine
        obtain ⟨operands, hspell, hfeed⟩ := ih hnext
        have hword := spells_iff.2 ⟨token.kind, (wordResult_eq_ok_iff.1 hresult).1, hoperand⟩
        refine ⟨operand :: operands, .cons hword hspell, ?_⟩
        rwa [List.append_assoc] at hfeed
  · rintro ⟨operands, hspell, h⟩
    rwa [feed_of_spellAll hspell]

/-! ### All lines

Each line is entered from a stage where everything before it is complete. Lines without words give
no results and change nothing, so the induction passes over them. -/

/-- Behind a complete line a later one with a mnemonic begins an instruction. -/
theorem feed_mnemonic {stage : Stage} {line line' : Nat} {instructions : List Instruction}
    {word : String} {opcode : Opcode} {rest : List (Except Failure Token)}
    (hrests : stage.Rests line instructions) (hlt : line < line')
    (hmnemonic : Text.upperCase word = opcode.mnemonic) :
    stage.feed (wordResult line' true word :: rest) =
      (Stage.instruction instructions line' opcode [] opcode.operandKinds).feed rest := by
  have hword : TokenKind.ofWord word true = .ok (.opcode opcode) :=
    TokenKind.ofWord_eq_opcode_iff.2 ⟨rfl, upperCase_eq_mnemonic_iff.1 hmnemonic⟩
  have hresult : wordResult line' true word = .ok ⟨.opcode opcode, line'⟩ :=
    wordResult_eq_ok_iff.2 ⟨hword, rfl⟩
  have hoff : (⟨.opcode opcode, line'⟩ : Token).isOn line = false :=
    Token.isOn_eq_false_iff.2 (.inr (Nat.ne_of_gt hlt))
  rw [hresult]
  exact Stage.feed_ok_cons_of_ok (Stage.examine_of_rests hrests hoff)

/-- Behind a complete line, the words of a later one complete an instruction exactly when the first
is the mnemonic of an opcode and the others spell its operands. -/
theorem feed_line_iff {stage stage' : Stage} {line line' : Nat} {instructions : List Instruction}
    {word : String} {words : List String} {rest : List (Except Failure Token)}
    (hrests : stage.Rests line instructions) (hlt : line < line') (hrest : OffLine line' rest) :
    stage.feed (wordResult line' true word :: (words.map (wordResult line' false) ++ rest)) =
        .ok stage' ↔
      ∃ opcode operands, Text.upperCase word = opcode.mnemonic ∧
        SpellAll opcode.operandKinds words operands ∧
        (Stage.instruction instructions line' opcode operands []).feed rest = .ok stage' := by
  have hoff : ∀ token, wordResult line' true word = .ok token → token.isOn line = false := by
    intro token htoken
    rw [isOn_of_wordResult htoken]
    exact decide_eq_false (by omega)
  constructor
  · intro h
    obtain ⟨token, next, hresult, hexamine, hnext⟩ := Stage.feed_cons_eq_ok_iff.1 h
    rw [Stage.examine_of_rests hrests (hoff token hresult)] at hexamine
    rcases Stage.enter_eq_ok_iff.1 hexamine with ⟨opcode, hkind, rfl⟩ | ⟨hend, -⟩
    · obtain ⟨hword, hline⟩ := wordResult_eq_ok_iff.1 hresult
      rw [hkind] at hword
      rw [hline] at hnext
      obtain ⟨operands, hspell, hfeed⟩ := (feed_operands_iff hrest).1 hnext
      have hmnemonic := upperCase_eq_mnemonic_iff.2 (TokenKind.ofWord_eq_opcode_iff.1 hword).2
      exact ⟨opcode, operands, hmnemonic, hspell, hfeed⟩
    · exact absurd hend (by simp [Located.isEnd_of_result_eq_ok hresult])
  · rintro ⟨opcode, operands, hmnemonic, hspell, hfeed⟩
    rwa [feed_mnemonic hrests hlt hmnemonic, feed_of_spellAll hspell]

/-- The lines behind a complete one lead to a document exactly when each of them that has words is
an instruction, and the document has these instructions behind those that it had. -/
theorem feed_lines_iff {stage : Stage} {line line' last : Nat} {instructions : List Instruction}
    {lines : List (List String)} {document : Document}
    (hrests : stage.Rests line instructions) (hlt : line < line') :
    stage.feed (lineResults line' lines ++ [.ok ⟨.endOfStream, last⟩]) =
        .ok (.finished document) ↔
      ∃ more, List.Forall₂ InstructionLine (lines.filter (· ≠ [])) more ∧
        more.map Instruction.order = List.range' (instructions.length + 1) more.length ∧
        document = ⟨Document.languageName, instructions ++ more⟩ := by
  -- a line without words gives no results, and changes neither side
  induction lines generalizing stage line line' instructions with
  | nil =>
    rw [lineResults, List.nil_append, Stage.feed_end_of_rests hrests]
    constructor
    · intro h
      cases h
      exact ⟨[], .nil, rfl, by rw [List.append_nil]⟩
    · rintro ⟨more, hmore, -, rfl⟩
      obtain rfl := List.forall₂_nil_left_iff.1 hmore
      rw [List.append_nil]
  | cons words lines ih =>
    rcases words with - | ⟨word, words⟩
    · exact ih hrests (Nat.lt_succ_of_lt hlt)
    have hcons : ((word :: words) :: lines).filter (· ≠ []) =
        (word :: words) :: lines.filter (· ≠ []) := by simp
    have hrest := offLine_lineResults (Nat.lt_succ_self line') last lines
    rw [hcons, lineResults_cons_append, feed_line_iff hrests hlt hrest]
    constructor
    · rintro ⟨opcode, operands, hmnemonic, hspell, hfeed⟩
      obtain ⟨more, hmore, horders, rfl⟩ :=
        (ih (.instruction instructions line' opcode operands) (Nat.lt_succ_self _)).1 hfeed
      refine ⟨.ofOperands (instructions.length + 1) opcode operands :: more,
        .cons (.mk _ opcode operands hmnemonic hspell) hmore, ?_, ?_⟩
      · rw [List.map_cons, Instruction.ofOperands_order, horders, Stage.numbered,
          List.length_append, List.length_singleton, List.length_cons, List.range'_succ]
      · rw [Stage.numbered, List.append_assoc, List.singleton_append]
    · rintro ⟨_, hlines, horders, rfl⟩
      rcases hlines with - | ⟨⟨order, opcode, operands, hmnemonic, hspell⟩, hmore⟩
      rw [List.map_cons, List.length_cons, List.range'_succ] at horders
      obtain ⟨rfl, horders'⟩ := List.cons.inj horders
      refine ⟨opcode, operands, hmnemonic, hspell,
        (ih (.instruction instructions line' opcode operands) (Nat.lt_succ_self _)).2
          ⟨_, hmore, ?_, ?_⟩⟩
      · rw [Stage.numbered, List.length_append, List.length_singleton, horders']
      · rw [Stage.numbered, List.append_assoc, List.singleton_append]

/-- The header at the beginning is accepted. -/
theorem feed_header {word : String} {line : Nat} {rest : List (Except Failure Token)}
    (hheader : Text.upperCase word = ".IPPCODE23") :
    Stage.start.feed (wordResult line true word :: rest) = (Stage.header line).feed rest := by
  have hword : TokenKind.ofWord word true = .ok .header :=
    TokenKind.ofWord_eq_header_iff.2 (upperCase_eq_headerText_iff.1 hheader)
  have hresult : wordResult line true word = .ok ⟨.header, line⟩ :=
    wordResult_eq_ok_iff.2 ⟨hword, rfl⟩
  rw [hresult, Stage.feed_ok_cons_of_ok (Stage.examine_start_eq_ok_iff.2 ⟨rfl, rfl⟩)]

/-- All lines lead to a document exactly when the first that has words is the header alone and the
others are instructions. -/
theorem feed_start_iff {line last : Nat} {lines : List (List String)} {document : Document} :
    Stage.start.feed (lineResults line lines ++ [.ok ⟨.endOfStream, last⟩]) =
        .ok (.finished document) ↔
      ∃ header body more, lines.filter (· ≠ []) = [header] :: body ∧
        Text.upperCase header = ".IPPCODE23" ∧ List.Forall₂ InstructionLine body more ∧
        more.map Instruction.order = List.range' 1 more.length ∧
        document = ⟨Document.languageName, more⟩ := by
  induction lines generalizing line with
  | nil =>
    have hfeed : Stage.start.feed [.ok ⟨.endOfStream, last⟩] =
        .error (.header none .emptyProgram) := rfl
    simp [lineResults, hfeed]
  | cons words lines ih =>
    rcases words with - | ⟨word, more⟩
    · exact ih
    have hcons : ((word :: more) :: lines).filter (· ≠ []) =
        (word :: more) :: lines.filter (· ≠ []) := by simp
    rw [hcons, lineResults_cons_append]
    constructor
    · intro h
      obtain ⟨token, next, hresult, hexamine, hnext⟩ := Stage.feed_cons_eq_ok_iff.1 h
      obtain ⟨hkind, rfl⟩ := Stage.examine_start_eq_ok_iff.1 hexamine
      obtain ⟨hword, hline⟩ := wordResult_eq_ok_iff.1 hresult
      rw [hkind] at hword
      rw [hline] at hnext
      have hheader := upperCase_eq_headerText_iff.2 (TokenKind.ofWord_eq_header_iff.1 hword)
      rcases more with - | ⟨second, more⟩
      · obtain ⟨more, hmore, horders, rfl⟩ :=
          (feed_lines_iff (.header line) (Nat.lt_succ_self line)).1 hnext
        exact ⟨word, _, more, rfl, hheader, hmore, horders, rfl⟩
      · obtain ⟨next, _, hresult', hexamine', -⟩ := Stage.feed_cons_eq_ok_iff.1 hnext
        rw [Stage.examine_header_eq_ok_iff, isOn_of_wordResult hresult'] at hexamine'
        simp at hexamine'
    · rintro ⟨header, body, instructions, heq, hheader, hmore, horders, rfl⟩
      obtain ⟨⟨rfl, rfl⟩, rfl⟩ : (word = header ∧ more = []) ∧ lines.filter (· ≠ []) = body := by
        simpa using heq
      rw [feed_header hheader]
      exact (feed_lines_iff (.header line) (Nat.lt_succ_self line)).2
        ⟨instructions, hmore, horders, rfl⟩

/-! ### Sources

The lines of the source come from its scan. A source that is not clean has a failure in its scan and
no translation, so the two sides agree on it as well. -/

/-- The results of the scan lead to a document exactly when the source is a program and the
document its translation. -/
theorem feed_scan_iff_program {source : String} {document : Document} :
    Stage.start.feed (scan source) = .ok (.finished document) ↔ Program source document := by
  by_cases hclean : Clean source
  · rw [scan_eq_lineResults hclean, feed_start_iff]
    constructor
    · rintro ⟨header, body, more, hlines, hheader, hmore, horders, rfl⟩
      exact ⟨hclean, ⟨header, body, hlines, hheader, hmore⟩, horders, rfl⟩
    · rintro ⟨-, ⟨header, body, hlines, hheader, hmore⟩, horders, hlanguage⟩
      obtain ⟨language, instructions⟩ := document
      exact ⟨header, body, instructions, hlines, hheader, hmore, horders,
        congrArg (Document.mk · instructions) hlanguage⟩
  · constructor
    · intro h
      obtain ⟨tokens, htokens⟩ := Stage.exists_tokens_of_feed_eq_ok h
      obtain ⟨failure, hfailure⟩ := exists_error_mem_scan hclean
      rw [htokens] at hfailure
      simp at hfailure
    · exact fun h ↦ absurd h.clean hclean

/-- A source is validated with a document exactly when it is a program that the document
translates. -/
theorem validate_eq_ok_iff_program {source : String} {document : Document} :
    validate source = .ok document ↔ Program source document :=
  validate_eq_ok_iff_feed.trans feed_scan_iff_program

/-- **The language of the validator is that of the grammar.** A source is accepted exactly when it
is a program, and then with the document that translates it, whether it is validated or parsed. The
document of a program is unique, since validation gives one at most. -/
theorem accepted_iff_program (source : String) (document : Document) :
    (validate source = .ok document ↔ Program source document) ∧
      ((parseSource source).result = .ok document ↔ Program source document) :=
  ⟨validate_eq_ok_iff_program, validate_eq_ok_iff_program⟩

end IppCode
