import IppCode.Proofs.Grammar.Language

/-!
# Exit statuses by lines

How the lines of a source without control characters decide the exit status of a run
(`exitCode_parseSource`). The header decides first, then the first line behind it that is no
instruction, and of that line whether it begins with a mnemonic.

`Verdict` spells the decision out, and `feed_start_verdict` says that the results of a scan are
decided so, by induction on the lines. The induction rests on the first word of a line being always
some token, so that the scanner cannot fail there before the validator has its say. It can fail
behind the header: a variable with an improper name is then reported as such, and not as a word that
has no place there. This is a case of its own (`BadNameBehindHeader`), and without it the decision
would be wrong (`not_badHeader_of_not_headed`).

A complaint about a line may be made one token later, since too few operands are noticed by what
stands behind the line. It is a token in any case, even if that line is at fault as well
(`exists_token_lineResults`), so the complaint is about the first of the two lines.

The verdicts are relations and exclude one another. The last section reads each status off them in
both directions, so the statement about sources does not mention them.
-/

namespace IppCode

/-! ### Lines that break the grammar

A line is looked at as a list of words, and without regard to the lines around it. A program has at
most one first break, and is headed in at most one way, so the relations are functions where they
are defined. -/

/-- The words of a line are an instruction. -/
def IsInstruction (words : List String) : Prop :=
  ∃ instruction, InstructionLine words instruction

/-- The first word of a line is a mnemonic, in whatever case. -/
def StartsWithMnemonic (words : List String) : Prop :=
  ∃ word ∈ words.head?, ∃ opcode : Opcode, Text.upperCase word = opcode.mnemonic

/-- The line is the first that is no instruction. -/
inductive FirstBreak : List (List String) → List String → Prop
  /-- It is the first line of all … -/
  | here {words : List String} {lines : List (List String)} (hwords : ¬ IsInstruction words) :
    FirstBreak (words :: lines) words
  /-- … or comes behind an instruction. -/
  | later {words other : List String} {lines : List (List String)} (hother : IsInstruction other)
      (hlines : FirstBreak lines words) : FirstBreak (other :: lines) words

/-- The header stands alone on the first line, and `body` are the lines behind it. -/
inductive Headed : List (List String) → List (List String) → Prop
  /-- The case of the header does not matter. -/
  | mk {header : String} {body : List (List String)}
      (hheader : Text.upperCase header = ".IPPCODE23") : Headed ([header] :: body) body

/-- The header is followed, on its line, by a variable with an improper name. -/
inductive BadNameBehindHeader : List (List String) → Prop
  /-- The frame makes the word a variable, and the name makes it none. -/
  | mk {header name : String} {frame : Frame} {more : List String} {body : List (List String)}
      (hheader : Text.upperCase header = ".IPPCODE23") (hname : ¬ Identifier name) :
    BadNameBehindHeader ((header :: (frame.keyword ++ "@" ++ name) :: more) :: body)

/-- A line is an instruction if its first word is a mnemonic and the others spell the operands that
the opcode calls for. -/
theorem isInstruction_cons_iff {word : String} {words : List String} :
    IsInstruction (word :: words) ↔
      ∃ (opcode : Opcode) (operands : List Operand), Text.upperCase word = opcode.mnemonic ∧
        SpellAll opcode.operandKinds words operands := by
  constructor
  · rintro ⟨_, order, opcode, operands, hmnemonic, hspell⟩
    exact ⟨opcode, operands, hmnemonic, hspell⟩
  · rintro ⟨opcode, operands, hmnemonic, hspell⟩
    exact ⟨_, .mk 1 opcode operands hmnemonic hspell⟩

theorem startsWithMnemonic_cons_iff {word : String} {words : List String} :
    StartsWithMnemonic (word :: words) ↔
      ∃ opcode : Opcode, Text.upperCase word = opcode.mnemonic := by
  simp [StartsWithMnemonic]

/-- An instruction begins with its mnemonic. -/
theorem IsInstruction.startsWithMnemonic {words : List String} (h : IsInstruction words) :
    StartsWithMnemonic words := by
  obtain ⟨_, order, opcode, operands, hmnemonic, -⟩ := h
  exact startsWithMnemonic_cons_iff.2 ⟨opcode, hmnemonic⟩

/-- Some line is no instruction exactly when there is a first such line. -/
theorem exists_firstBreak_iff {lines : List (List String)} :
    (∃ words, FirstBreak lines words) ↔ ∃ words ∈ lines, ¬ IsInstruction words := by
  induction lines with
  | nil => exact ⟨nofun, by simp⟩
  | cons first lines ih =>
    by_cases hfirst : IsInstruction first
    · constructor
      · rintro ⟨words, hbreak⟩
        cases hbreak with
        | here hwords => exact absurd hfirst hwords
        | later _ hlines =>
          obtain ⟨other, hother, hnot⟩ := ih.1 ⟨words, hlines⟩
          exact ⟨other, List.mem_cons_of_mem _ hother, hnot⟩
      · rintro ⟨words, hwords, hnot⟩
        rcases List.mem_cons.1 hwords with rfl | hmem
        · exact absurd hfirst hnot
        · obtain ⟨other, hother⟩ := ih.2 ⟨words, hmem, hnot⟩
          exact ⟨other, .later hfirst hother⟩
    · exact iff_of_true ⟨first, .here hfirst⟩ ⟨first, List.mem_cons_self, hfirst⟩

/-- There is one first such line at most. -/
theorem FirstBreak.unique {lines : List (List String)} {words words' : List String}
    (h : FirstBreak lines words) (h' : FirstBreak lines words') : words = words' := by
  induction h with
  | here hwords =>
    cases h' with
    | here => rfl
    | later hother => exact absurd hother hwords
  | later hother hlines ih =>
    cases h' with
    | here hwords => exact absurd hother hwords
    | later _ hlines' => exact ih hlines'

theorem Headed.unique {lines body body' : List (List String)} (h : Headed lines body)
    (h' : Headed lines body') : body = body' := by
  cases h
  cases h'
  rfl

/-- A header that is followed on its line is not alone. -/
theorem BadNameBehindHeader.not_headed {lines body : List (List String)}
    (h : BadNameBehindHeader lines) : ¬ Headed lines body := by
  cases h
  rintro ⟨⟩

/-! ### Exit statuses

A status is read off the result alone. The failures of a program lead to three of them, and which
failure leads to which is said here. -/

/-- The exit status that a result stands for. -/
def exitCode {α : Type} : Except Failure α → Nat
  | .ok _ => ExitStatus.success.code
  | .error failure => failure.exitStatus.code

/-- Success alone has status 0. -/
theorem exitCode_eq_zero_iff {α : Type} {result : Except Failure α} :
    exitCode result = 0 ↔ ∃ value, result = .ok value := by
  rcases result with failure | value
  · refine iff_of_false ?_ (by simp)
    rcases failure with _ | _ | _ | _ | ⟨_ | _⟩ | _ <;> simp [exitCode, Failure.exitStatus,
      ExitStatus.code]
  · exact iff_of_true rfl ⟨value, rfl⟩

/-- A run and the results of its scan have one exit status. -/
theorem exitCode_validate (source : String) :
    exitCode (validate source) = exitCode (Stage.start.feed (scan source)) := by
  rcases hresult : validate source with failure | document
  · rw [Validator.run_result_eq_error_iff.1 hresult]
    rfl
  · rw [validate_eq_ok_iff_feed.1 hresult]
    rfl

/-- How the lines behind the header decide. -/
inductive BodyVerdict : List (List String) → Nat → Prop
  /-- All lines are instructions. -/
  | accepted {lines : List (List String)} (hlines : ∀ words ∈ lines, IsInstruction words) :
    BodyVerdict lines 0
  /-- The first line that is none does not begin with an opcode. -/
  | badOpcode {lines : List (List String)} {words : List String} (hbreak : FirstBreak lines words)
      (hwords : ¬ StartsWithMnemonic words) : BodyVerdict lines 22
  /-- It begins with one, so what is wrong are its operands. -/
  | badOperands {lines : List (List String)} {words : List String} (hbreak : FirstBreak lines words)
      (hwords : StartsWithMnemonic words) : BodyVerdict lines 23

/-- How all lines decide. -/
inductive Verdict : List (List String) → Nat → Prop
  /-- The program does not begin with the header alone. -/
  | badHeader {lines : List (List String)} (hheader : ∀ body, ¬ Headed lines body)
      (hname : ¬ BadNameBehindHeader lines) : Verdict lines 21
  /-- This is the one case in which what stands behind the header is looked at before the header is
  found not to be alone. -/
  | badName {lines : List (List String)} (hname : BadNameBehindHeader lines) : Verdict lines 23
  /-- Behind the header the other lines decide. -/
  | headed {lines body : List (List String)} {code : Nat} (hheader : Headed lines body)
      (hbody : BodyVerdict body code) : Verdict lines code

/-- An instruction leaves the verdict to the lines behind it. -/
theorem BodyVerdict.cons {words : List String} {lines : List (List String)} {code : Nat}
    (hwords : IsInstruction words) (h : BodyVerdict lines code) :
    BodyVerdict (words :: lines) code := by
  cases h with
  | accepted hlines => exact .accepted (List.forall_mem_cons.2 ⟨hwords, hlines⟩)
  | badOpcode hbreak hother => exact .badOpcode (.later hwords hbreak) hother
  | badOperands hbreak hother => exact .badOperands (.later hwords hbreak) hother

section Verdict

variable {lines body : List (List String)} {code : Nat}

/-- Status 22 is that of a first bad line without a mnemonic: the other verdicts have another
status, and there is one first bad line only. -/
theorem BodyVerdict.badOpcode_iff (h : BodyVerdict body code) :
    code = 22 ↔ ∃ words, FirstBreak body words ∧ ¬ StartsWithMnemonic words := by
  cases h with
  | accepted hlines =>
    refine iff_of_false (by decide) ?_
    rintro ⟨words, hbreak, -⟩
    obtain ⟨other, hother, hnot⟩ := exists_firstBreak_iff.1 ⟨words, hbreak⟩
    exact hnot (hlines other hother)
  | badOpcode hbreak hwords => exact iff_of_true rfl ⟨_, hbreak, hwords⟩
  | badOperands hbreak hwords =>
    refine iff_of_false (by decide) ?_
    rintro ⟨words, hbreak', hnot⟩
    exact hnot (hbreak.unique hbreak' ▸ hwords)

/-- Status 23 is that of any bad line, once it is known that the status is not 22. -/
theorem BodyVerdict.badOperands_iff (h : BodyVerdict body code) (hcode : code ≠ 22) :
    code = 23 ↔ ∃ words ∈ body, ¬ IsInstruction words := by
  cases h with
  | accepted hlines => exact iff_of_false (by decide) fun ⟨words, hmem, hnot⟩ ↦ hnot (hlines _ hmem)
  | badOpcode => exact absurd rfl hcode
  | badOperands hbreak => exact iff_of_true rfl (exists_firstBreak_iff.1 ⟨_, hbreak⟩)

/-- Where every line is an instruction, no line is the first that is none. -/
theorem BodyVerdict.code_of_forall (h : BodyVerdict body code)
    (hbody : ∀ words ∈ body, IsInstruction words) : code = 0 := by
  have hnone : ∀ words, ¬ FirstBreak body words := fun words hbreak ↦ by
    obtain ⟨other, hother, hnot⟩ := exists_firstBreak_iff.1 ⟨words, hbreak⟩
    exact hnot (hbody other hother)
  cases h with
  | accepted => rfl
  | badOpcode hbreak => exact absurd hbreak (hnone _)
  | badOperands hbreak => exact absurd hbreak (hnone _)

/-- Status 21 is that of a header that is missing or not alone, save for the variable behind it. -/
theorem Verdict.badHeader_iff (h : Verdict lines code) :
    code = 21 ↔ (¬ ∃ body, Headed lines body) ∧ ¬ BadNameBehindHeader lines := by
  cases h with
  | badHeader hheader hname => exact iff_of_true rfl ⟨not_exists.2 hheader, hname⟩
  | badName hname => exact iff_of_false (by decide) fun hnot ↦ hnot.2 hname
  | headed hheader hbody =>
    refine iff_of_false ?_ fun hnot ↦ hnot.1 ⟨_, hheader⟩
    cases hbody <;> decide

/-- Behind the header a variable with an improper name has status 23, whatever comes later. -/
theorem Verdict.code_of_badName (h : Verdict lines code) (hname : BadNameBehindHeader lines) :
    code = 23 := by
  cases h with
  | badHeader _ hnot => exact absurd hname hnot
  | badName => rfl
  | headed hheader => exact absurd hheader hname.not_headed

theorem Verdict.body_of_headed (h : Verdict lines code) (hheader : Headed lines body) :
    BodyVerdict body code := by
  cases h with
  | badHeader hnot => exact absurd hheader (hnot body)
  | badName hname => exact absurd hheader hname.not_headed
  | headed hheader' hbody => exact hheader.unique hheader' ▸ hbody

end Verdict

/-! ### One line

What becomes of a line that is no instruction: it is refused for its first word or for its operands,
and the results behind the line have no say in which of the two. -/

section Line

variable {stage : Stage} {line line' : Nat} {instructions before : List Instruction}
  {word : String} {words : List String} {token : Token} {rest : List (Except Failure Token)}

/-- A token that is refused decides. -/
theorem exitCode_feed_of_refused {failure : Failure} (h : stage.examine token = .error failure) :
    exitCode (stage.feed (.ok token :: rest)) = failure.exitStatus.code := by
  rw [Stage.feed_ok_cons_of_error h]
  rfl

/-- So does a word that is no token. -/
theorem exitCode_feed_of_wordResult_error {first : Bool} {failure : Failure}
    (h : wordResult line first word = .error failure) :
    exitCode (stage.feed (wordResult line first word :: rest)) = 23 := by
  obtain ⟨fault, -, rfl⟩ := wordResult_eq_error_iff.1 h
  rw [h, Stage.feed_error_cons]
  rfl

/-- Behind a complete line a later one without a mnemonic is refused at once. -/
theorem exitCode_feed_of_not_mnemonic (hrests : stage.Rests line instructions) (hlt : line < line')
    (hword : ∀ opcode : Opcode, Text.upperCase word ≠ opcode.mnemonic) :
    exitCode (stage.feed (wordResult line' true word :: rest)) = 22 := by
  obtain ⟨kind, hkind⟩ := TokenKind.ofWord_leading word
  have hresult : wordResult line' true word = .ok ⟨kind, line'⟩ :=
    wordResult_eq_ok_iff.2 ⟨hkind, rfl⟩
  have hoff : (⟨kind, line'⟩ : Token).isOn line = false :=
    Token.isOn_eq_false_iff.2 (.inr (Nat.ne_of_gt hlt))
  have hopcode : ∀ opcode, kind ≠ .opcode opcode := by
    rintro opcode rfl
    exact hword opcode (upperCase_eq_mnemonic_iff.2 (TokenKind.ofWord_eq_opcode_iff.1 hkind).2)
  have henter : Stage.enter instructions ⟨kind, line'⟩ = .error (.badOpcode line' kind.text) :=
    Stage.enter_eq_error_iff.2 ⟨Located.isEnd_of_result_eq_ok hresult, hopcode, rfl⟩
  rw [hresult]
  exact exitCode_feed_of_refused ((Stage.examine_of_rests hrests hoff).trans henter)

/-- Behind an opcode, words that do not spell its operands are refused somewhere. -/
theorem exitCode_feed_of_not_spellAll {opcode : Opcode} {found : List Operand}
    {kinds : List OperandKind} (hspell : ∀ operands, ¬ SpellAll kinds words operands)
    (hoff : token.isOn line = false) :
    exitCode ((Stage.instruction before line opcode found kinds).feed
      (words.map (wordResult line false) ++ .ok token :: rest)) = 23 := by
  -- word by word, against the kinds that are still called for; what stands behind the words is only
  -- looked at when they run out
  induction words generalizing found kinds with
  | nil =>
    rcases kinds with - | ⟨kind, kinds⟩
    · exact absurd .nil (hspell [])
    · -- too few words: the token behind them is not on the line
      exact (exitCode_feed_of_refused (Stage.examine_operand_eq_error_iff.2
        (.inr ⟨hoff, rfl⟩))).trans rfl
  | cons word words ih =>
    rw [List.map_cons, List.cons_append]
    rcases hresult : wordResult line false word with failure | next
    · exact hresult ▸ exitCode_feed_of_wordResult_error hresult
    have hon := isOn_of_wordResult hresult line
    rw [decide_eq_true rfl] at hon
    rcases kinds with - | ⟨kind, kinds⟩
    · -- too many words
      exact (exitCode_feed_of_refused (Stage.examine_complete_eq_error_iff.2
        (.inl ⟨hon, rfl⟩))).trans rfl
    rcases hoperand : Operand.ofToken (found.length + 1) kind next.kind with fault | operand
    · exact (exitCode_feed_of_refused (Stage.examine_operand_eq_error_iff.2
        (.inl ⟨hon, fault, hoperand, rfl⟩))).trans rfl
    · have hword : Spells kind word operand :=
        spells_iff.2 ⟨next.kind, (wordResult_eq_ok_iff.1 hresult).1, hoperand⟩
      have hexamine : (Stage.instruction before line opcode found (kind :: kinds)).examine next =
          .ok (.instruction before line opcode (found ++ [operand]) kinds) :=
        Stage.examine_operand_eq_ok_iff.2 ⟨hon, operand, hoperand, rfl⟩
      rw [Stage.feed_ok_cons_of_ok hexamine]
      exact ih fun operands hrest ↦ hspell (operand :: operands) (.cons hword hrest)

end Line

/-! ### All lines

By induction on the lines: complete ones are passed over, and the first other one decides. -/

/-- The lines behind a complete one decide. -/
theorem feed_lines_verdict {stage : Stage} {line line' : Nat} {instructions : List Instruction}
    (hrests : stage.Rests line instructions) (hlt : line < line') (lines : List (List String))
    (last : Nat) :
    BodyVerdict (lines.filter (· ≠ []))
      (exitCode (stage.feed (lineResults line' lines ++ [.ok ⟨.endOfStream, last⟩]))) := by
  induction lines generalizing stage line line' instructions with
  | nil =>
    rw [lineResults, List.nil_append, Stage.feed_end_of_rests hrests]
    exact .accepted (by simp)
  | cons words lines ih =>
    rcases words with - | ⟨word, words⟩
    · exact ih hrests (Nat.lt_succ_of_lt hlt)
    have hcons : ((word :: words) :: lines).filter (· ≠ []) =
        (word :: words) :: lines.filter (· ≠ []) := by simp
    rw [hcons, lineResults_cons_append]
    by_cases hstarts : StartsWithMnemonic (word :: words)
    · obtain ⟨opcode, hopcode⟩ := startsWithMnemonic_cons_iff.1 hstarts
      rw [feed_mnemonic hrests hlt hopcode]
      by_cases hspell : ∃ operands, SpellAll opcode.operandKinds words operands
      · obtain ⟨operands, hspell⟩ := hspell
        rw [feed_of_spellAll hspell]
        exact (ih (.instruction instructions line' opcode _) (Nat.lt_succ_self line')).cons
          (isInstruction_cons_iff.2 ⟨opcode, operands, hopcode, hspell⟩)
      · -- what follows the line is a token, so the complaint is about the line
        obtain ⟨token, later, hlater, hoff⟩ :=
          exists_token_lineResults (Nat.lt_succ_self line') last lines
        rw [hlater, exitCode_feed_of_not_spellAll (not_exists.1 hspell) hoff]
        refine .badOperands (.here fun hwords ↦ ?_) hstarts
        obtain ⟨opcode', operands, hopcode', hoperands⟩ := isInstruction_cons_iff.1 hwords
        obtain rfl := Opcode.mnemonic_injective (hopcode.symm.trans hopcode')
        exact hspell ⟨operands, hoperands⟩
    · have hmnemonic := not_exists.1 (mt startsWithMnemonic_cons_iff.2 hstarts)
      rw [exitCode_feed_of_not_mnemonic hrests hlt hmnemonic]
      exact .badOpcode (.here fun hwords ↦ hstarts hwords.startsWithMnemonic) hstarts

/-- A first word that is not the header decides. -/
theorem verdict_of_not_header {word : String} (hword : Text.upperCase word ≠ ".IPPCODE23")
    (words : List String) (body : List (List String)) (line : Nat)
    (rest : List (Except Failure Token)) :
    Verdict ((word :: words) :: body)
      (exitCode (Stage.start.feed (wordResult line true word :: rest))) := by
  obtain ⟨kind, hkind⟩ := TokenKind.ofWord_leading word
  have hresult : wordResult line true word = .ok ⟨kind, line⟩ :=
    wordResult_eq_ok_iff.2 ⟨hkind, rfl⟩
  have hne : kind ≠ .header := by
    rintro rfl
    exact hword (upperCase_eq_headerText_iff.2 (TokenKind.ofWord_eq_header_iff.1 hkind))
  rw [hresult, exitCode_feed_of_refused (Stage.examine_start_eq_error_iff.2
    (.inr ⟨Located.isEnd_of_result_eq_ok hresult, hne, rfl⟩))]
  refine .badHeader ?_ ?_
  · rintro _ ⟨hheader⟩
    exact hword hheader
  · rintro ⟨hheader, -⟩
    exact hword hheader

/-- So does a second word on the line of the header. -/
theorem verdict_of_followed {header : String} (hheader : Text.upperCase header = ".IPPCODE23")
    (second : String) (words : List String) (body : List (List String)) (line : Nat)
    (rest : List (Except Failure Token)) :
    Verdict ((header :: second :: words) :: body)
      (exitCode ((Stage.header line).feed (wordResult line false second :: rest))) := by
  rcases hsecond : wordResult line false second with failure | next
  · -- the scanner fails before the word can be refused
    rw [← hsecond, exitCode_feed_of_wordResult_error hsecond]
    obtain ⟨fault, hfault, -⟩ := wordResult_eq_error_iff.1 hsecond
    obtain ⟨-, frame, name, hname, rfl, -⟩ := TokenKind.ofWord_eq_error_iff.1 hfault
    exact .badName (.mk hheader hname)
  · have hon := isOn_of_wordResult hsecond line
    rw [decide_eq_true rfl] at hon
    rw [exitCode_feed_of_refused (Stage.examine_header_eq_error_iff.2 (.inl ⟨hon, rfl⟩))]
    refine .badHeader nofun fun hbad ↦ ?_
    cases hbad with
    | @mk _ name frame _ _ _ hname =>
      have hfault : TokenKind.ofWord (frame.keyword ++ "@" ++ name) false = .error _ :=
        TokenKind.ofWord_eq_error_iff.2 ⟨rfl, frame, name, hname, rfl, rfl⟩
      cases hfault.symm.trans (wordResult_eq_ok_iff.1 hsecond).1

/-- All lines decide. -/
theorem feed_start_verdict (lines : List (List String)) (line last : Nat) :
    Verdict (lines.filter (· ≠ []))
      (exitCode (Stage.start.feed (lineResults line lines ++ [.ok ⟨.endOfStream, last⟩]))) := by
  induction lines generalizing line with
  | nil => exact .badHeader nofun nofun
  | cons words lines ih =>
    rcases words with - | ⟨word, words⟩
    · exact ih (line + 1)
    have hcons : ((word :: words) :: lines).filter (· ≠ []) =
        (word :: words) :: lines.filter (· ≠ []) := by simp
    rw [hcons, lineResults_cons_append]
    by_cases hheader : Text.upperCase word = ".IPPCODE23"
    · rw [feed_header hheader]
      rcases words with - | ⟨second, words⟩
      · exact .headed (.mk hheader)
          (feed_lines_verdict (.header line) (Nat.lt_succ_self line) lines last)
      · exact verdict_of_followed hheader second words _ line _
    · exact verdict_of_not_header hheader words _ line _

/-! ### Sources

From lists of lines to sources. Without control characters every source is the lines that it is
scanned by. -/

/-- The lines of a source without control characters decide the exit status. -/
theorem verdict_of_clean {source : String} (hclean : Clean source) :
    Verdict (wordLines source) (exitCode (parseSource source).result) := by
  show Verdict _ (exitCode (validate source))
  rw [exitCode_validate, scan_eq_lineResults hclean]
  exact feed_start_verdict _ _ _

/-- **The exit status is decided line by line.** It is that of a bad header if the header does not
stand alone on the first line with words, save where the scanner fails on the variable behind it.
Otherwise the first line decides that is no instruction, by whether it begins with a mnemonic. If
there is none, the source is accepted. -/
theorem exitCode_parseSource {source : String} (hclean : Clean source) :
    (exitCode (parseSource source).result = 21 ↔
      (¬ ∃ body, Headed (wordLines source) body) ∧ ¬ BadNameBehindHeader (wordLines source)) ∧
    (BadNameBehindHeader (wordLines source) → exitCode (parseSource source).result = 23) ∧
    ∀ body, Headed (wordLines source) body →
      (exitCode (parseSource source).result = 22 ↔
        ∃ words, FirstBreak body words ∧ ¬ StartsWithMnemonic words) ∧
      (exitCode (parseSource source).result ≠ 22 →
        (exitCode (parseSource source).result = 23 ↔ ∃ words ∈ body, ¬ IsInstruction words)) ∧
      ((∀ words ∈ body, IsInstruction words) →
        ∃ document, (parseSource source).result = .ok document) := by
  have hverdict := verdict_of_clean hclean
  refine ⟨hverdict.badHeader_iff, hverdict.code_of_badName, fun body hheader ↦ ?_⟩
  have hbody := hverdict.body_of_headed hheader
  exact ⟨hbody.badOpcode_iff, hbody.badOperands_iff,
    fun hall ↦ exitCode_eq_zero_iff.1 (hbody.code_of_forall hall)⟩

/-- A variable where an opcode belongs is a bad opcode, even if its name is improper. -/
theorem exitCode_parseSource_bad_opcode :
    Clean ".IPPcode23\nDEFVAR GF@x # one\nGF@1" ∧
    exitCode (parseSource ".IPPcode23\nDEFVAR GF@x # one\nGF@1").result = 22 := by
  have hclean : Clean ".IPPcode23\nDEFVAR GF@x # one\nGF@1" := by decide
  have hlines : wordLines ".IPPcode23\nDEFVAR GF@x # one\nGF@1" =
      [[".IPPcode23"], ["DEFVAR", "GF@x"], ["GF@1"]] := by decide
  have hheader : Headed (wordLines ".IPPcode23\nDEFVAR GF@x # one\nGF@1")
      [["DEFVAR", "GF@x"], ["GF@1"]] := hlines ▸ .mk (by decide)
  have hname : Identifier "x" := isIdentifier_eq_true_iff.1 (by decide)
  have hfirst : IsInstruction ["DEFVAR", "GF@x"] :=
    isInstruction_cons_iff.2 ⟨.defVar, [.var ⟨.gf, "x", by decide⟩], by decide,
      .cons (.var ⟨.gf, "x", by decide⟩ hname) .nil⟩
  have hnot : ¬ StartsWithMnemonic ["GF@1"] := by
    rw [startsWithMnemonic_cons_iff]
    rintro ⟨opcode, hopcode⟩
    exact not_mem_at_of_mnemonic (upperCase_eq_mnemonic_iff.1 hopcode) (by decide)
  have hbreak : ¬ IsInstruction ["GF@1"] := mt IsInstruction.startsWithMnemonic hnot
  exact ⟨hclean, ((exitCode_parseSource hclean).2.2 _ hheader).1.2
    ⟨_, .later hfirst (.here hbreak), hnot⟩⟩

/-- The header is not alone on its line, and still the status is not that of a bad header. -/
theorem not_badHeader_of_not_headed :
    ¬ ∀ source, Clean source → (exitCode (parseSource source).result = 21 ↔
      ¬ ∃ body, Headed (wordLines source) body) := by
  intro h
  have hclean : Clean ".IPPcode23 GF@1" := by decide
  have hlines : wordLines ".IPPcode23 GF@1" =
      [[".IPPcode23", Frame.gf.keyword ++ "@" ++ "1"]] := by decide
  have hname : ¬ Identifier "1" := by
    rw [← isIdentifier_eq_true_iff]
    decide
  have hbad : BadNameBehindHeader (wordLines ".IPPcode23 GF@1") :=
    hlines ▸ .mk (by decide) hname
  have hcode := (verdict_of_clean hclean).code_of_badName hbad
  rw [(h _ hclean).2 fun ⟨body, hheader⟩ ↦ hbad.not_headed hheader] at hcode
  cases hcode

end IppCode
