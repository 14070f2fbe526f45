import IppCode.Proofs.Grammar.Language
import IppCode.Proofs.Scan.Splice

/-!
# Failures are noticed as early as possible

What a failing run has pulled is the beginning of no accepted program's scan, and without the last
result it is the beginning of one. So no run reads past the first result that rules every program
out, and none rejects what could still be completed.

That a beginning can be completed is shown by completing it (`exists_completion`): the source is cut
behind the last token that was accepted (`exists_cut`), and the operands that are still called for
are written behind it on the same line. This is the line of the open instruction, since whatever is
accepted last stands on the line of its stage (`standsOn_of_feed`).

The other direction needs no completion. Stages are reached by results and by nothing else, so a
program that began with what a failing run has pulled would fail like it.

To cut a source is the delicate part. The text behind the cut is scanned from where the scanner had
come to, and not from the beginning of a line: it must not go on with the last word, nor be in its
comment, and its first word must not be the first of the line. So it begins with a separator
(`EndsWord`), and it is scanned with the flag down.
-/

namespace IppCode

/-! ### Sample operands

For each kind of operand a word that spells one. In a completion every sample stands behind a space,
so that it does not go on with the word in front of it. -/

/-- An operand of the kind, for completing an instruction with. -/
def OperandKind.sample : OperandKind → Operand
  | var => .var ⟨.gf, "x", by decide⟩
  | symb => .constant .nil
  | label => .label "x"
  | type => .type .int

theorem OperandKind.spells_sample (kind : OperandKind) :
    Spells kind kind.sample.text kind.sample := by
  have hname : Identifier "x" := isIdentifier_eq_true_iff.1 (by decide)
  cases kind with
  | var => exact .var ⟨.gf, "x", by decide⟩ hname
  | symb => exact .nil
  | label => exact .label "x" hname
  | type => exact .type .int

theorem OperandKind.spellAll_sample (kinds : List OperandKind) :
    SpellAll kinds (kinds.map fun kind ↦ kind.sample.text) (kinds.map sample) := by
  induction kinds with
  | nil => exact .nil
  | cons kind kinds ih => exact .cons kind.spells_sample ih

/-- Sample operands for the kinds, as text behind a word. -/
def completion : List OperandKind → List Char
  | [] => []
  | kind :: kinds => ' ' :: (kind.sample.text.toList ++ completion kinds)

theorem OperandKind.isWordChar_sample (kind : OperandKind) :
    ∀ c ∈ kind.sample.text.toList, isWordChar c = true := by
  have hall : kind.sample.text.toList.all isWordChar = true := by cases kind <;> decide
  exact List.all_eq_true.1 hall

/-- There is no comment and no control character in a completion. -/
theorem isPlain_of_mem_completion {kinds : List OperandKind} :
    ∀ c ∈ completion kinds, IsPlain c := by
  induction kinds with
  | nil => simp [completion]
  | cons kind kinds ih =>
    intro c hc
    rcases List.mem_cons.1 hc with rfl | hc
    · exact isPlain_space
    rcases List.mem_append.1 hc with hc | hc
    · exact isPlain_of_isWordChar (kind.isWordChar_sample c hc)
    · exact ih c hc

/-- The text consists of the sample operands. -/
theorem words_completion (kinds : List OperandKind) :
    words (completion kinds) = kinds.map fun kind ↦ kind.sample.text := by
  induction kinds with
  | nil => exact words_nil
  | cons kind kinds ih =>
    have hne : kind.sample.text.toList ≠ [] := by cases kind <;> decide
    have hsample := words_toList hne kind.isWordChar_sample
    rw [completion, words_blank (by decide), List.map_cons, ← ih]
    rcases kinds with - | ⟨next, kinds⟩
    · rw [completion, List.append_nil, words_nil, hsample]
    · rw [completion, words_append_blank (by decide), hsample, words_blank (by decide)]
      rfl

/-- A completion does not go on with the word in front of it, since a space comes first. -/
theorem endsWord_completion (kinds : List OperandKind) : EndsWord (completion kinds) := by
  rcases kinds with - | ⟨kind, kinds⟩
  · rintro c ⟨⟩
  · rintro c hc
    obtain rfl : ' ' = c := Option.some.inj hc
    decide

/-! ### Completing a program

Two things are put together: a source that is scanned to what was accepted, and the samples that are
still called for behind it. -/

/-- A program can be completed on the line on which it stands. -/
theorem exists_feed_samples {stage : Stage} {line : Nat} (hstage : stage.StandsOn line) :
    ∃ (kinds : List OperandKind) (document : Document), ∀ last,
      stage.feed ((kinds.map fun kind ↦ kind.sample.text).map (wordResult line false) ++
        [.ok ⟨.endOfStream, last⟩]) = .ok (.finished document) := by
  have hoff : ∀ last, OffLine line [.ok ⟨.endOfStream, last⟩] := fun last ↦
    offLine_lineResults (Nat.lt_succ_self line) last []
  cases hstage with
  | header =>
    exact ⟨[], ⟨Document.languageName, []⟩, fun last ↦ Stage.feed_end_of_rests (.header line)⟩
  | instruction before line opcode found missing =>
    refine ⟨missing, ⟨Document.languageName,
      Stage.numbered before opcode (found ++ missing.map OperandKind.sample)⟩, fun last ↦ ?_⟩
    exact (feed_operands_iff (hoff last)).2 ⟨_, OperandKind.spellAll_sample missing,
      Stage.feed_end_of_rests (.instruction before line opcode _)⟩

/-- The shortest program. -/
theorem validate_header : validate ".IPPcode23" = .ok ⟨"IPPcode23", []⟩ :=
  validate_eq_ok_iff_program.2
    ⟨by decide, ⟨".IPPcode23", [], by decide, by decide, .nil⟩, rfl, rfl⟩

/-- Sample operands behind a word are scanned to their words. -/
theorem map_result_items_completion (kinds : List OperandKind) (offset line : Nat) :
    (Cursor.items ⟨completion kinds, offset, line, false⟩).map Located.result =
      (kinds.map fun kind ↦ kind.sample.text).map (wordResult line false) := by
  rw [results_eq_wordResults _ isPlain_of_mem_completion, wordResults_false, words_completion]

/-- A source can be cut behind a token, short of the end, and gone on with on the line of the
token. -/
theorem exists_cut {source : String} {tokens : List Token} {token : Token}
    {later : List (Except Failure Token)}
    (hscan : scan source = (tokens ++ [token]).map .ok ++ later) (hlater : later ≠ []) :
    ∃ taken offset, ∀ more, EndsWord more → ∃ last,
      scan (String.ofList (taken ++ more)) = (tokens ++ [token]).map .ok ++
        ((Cursor.items ⟨more, offset, token.line, false⟩).map Located.result ++
          [.ok ⟨.endOfStream, last⟩]) := by
  obtain ⟨rest, hresults⟩ := map_result_items_of_scan hscan hlater
  obtain ⟨first, _, hitems, hfirst, -⟩ := List.map_eq_append_iff.1 hresults
  have hwords : ∀ item ∈ first, ∃ text atStart, item.lexeme = .word text atStart := by
    intro item hitem
    have hmem : item.result ∈ (tokens ++ [token]).map .ok := hfirst ▸ List.mem_map_of_mem hitem
    obtain ⟨token', -, heq⟩ := List.mem_map.1 hmem
    exact Located.exists_word_of_result_eq_ok heq.symm
  obtain ⟨taken, behind, -, hline, hstart, hsplice⟩ := Cursor.exists_splice hitems hwords
  rcases first.eq_nil_or_concat with rfl | ⟨init, item, rfl⟩
  · simp at hfirst
  -- the cursor is left on the line of the last lexeme, which is that of the token
  have hitem : item.result = .ok token := by
    simp only [List.concat_eq_append, List.map_append, List.map_singleton] at hfirst
    exact List.singleton_inj.1 (List.append_inj' hfirst rfl).2
  have hbehind : behind.line = token.line := by
    rw [hline, (Located.result_eq_ok_iff.1 hitem).2]
    simp
  have hfalse : behind.atLineStart = false := by
    rw [hstart]
    simp
  refine ⟨taken, behind.offset, fun more hmore ↦ ?_⟩
  have hcursor : Cursor.start (String.ofList (taken ++ more)) =
      { Cursor.start source with rest := taken ++ more } := by
    simp [Cursor.start]
  refine ⟨(Cursor.start (String.ofList (taken ++ more))).lastLine, ?_⟩
  rw [scan_eq, hcursor, hsplice more hmore, List.map_append, hfirst, hbehind, hfalse,
    List.append_assoc]

/-- What is passed without failure, short of the end, begins the scan of an accepted program. -/
theorem exists_completion {source : String} {before later : List (Except Failure Token)}
    {stage : Stage} (hscan : scan source = before ++ later) (hlater : later ≠ [])
    (hfeed : Stage.start.feed before = .ok stage) :
    ∃ accepted document, validate accepted = .ok document ∧ before <+: scan accepted := by
  obtain ⟨tokens, rfl⟩ := Stage.exists_tokens_of_feed_eq_ok hfeed
  have hend : ∀ token ∈ tokens, token.isEnd = false := fun token htoken ↦
    isEnd_of_scan_eq_append hscan hlater (List.mem_map_of_mem htoken)
  rcases tokens.eq_nil_or_concat with rfl | ⟨passed, token, rfl⟩
  · exact ⟨_, _, validate_header, List.nil_prefix⟩
  rw [List.concat_eq_append] at hscan hfeed hend ⊢
  -- the line of the last token is the one on which operands are still called for
  obtain ⟨kinds, document, hsamples⟩ := exists_feed_samples (Stage.standsOn_of_feed hfeed hend)
  obtain ⟨taken, offset, hcut⟩ := exists_cut hscan hlater
  obtain ⟨last, hcompleted⟩ := hcut (completion kinds) (endsWord_completion kinds)
  rw [map_result_items_completion] at hcompleted
  refine ⟨String.ofList (taken ++ completion kinds), document, ?_, ?_⟩
  · rw [validate_eq_ok_iff_feed, hcompleted, Stage.feed_append_of_ok hfeed, hsamples]
  · rw [hcompleted]
    exact List.prefix_append _ _

/-! ### The first failure

A failing result belongs to no program, and what stands before it does. -/

namespace Validator

/-- **Failures are noticed as early as possible.** What a failing run has pulled begins no accepted
program's scan, but what it had pulled before the last result begins one. So the failure could not
have been noticed before, and nothing that follows could have prevented it. -/
theorem earliest_detection {source : String} {failure : Failure}
    (h : (run source).result = .error failure) :
    ∃ before last, (run source).pulled = before ++ [last] ∧
      (run source).pulled <+: scan source ∧
      (∀ accepted document, validate accepted = .ok document →
        ¬ (run source).pulled <+: scan accepted) ∧
      ∃ accepted document, validate accepted = .ok document ∧ before <+: scan accepted := by
  obtain ⟨before, last, stage, hpulled, hbefore, -, rest, hscan⟩ := run_outcome_of_error h
  refine ⟨before, last, hpulled, ⟨rest, hscan⟩, ?_, ?_⟩
  · rintro accepted document haccepted ⟨more, hmore⟩
    have hfeed := validate_eq_ok_iff_feed.1 haccepted
    rw [← hmore, Stage.feed_append_of_error (feed_pulled_of_error h)] at hfeed
    cases hfeed
  · rw [hpulled, List.append_assoc] at hscan
    exact exists_completion hscan.symm (by simp) hbefore

/-- An operand is missing, which shows in the opcode of the next line. -/
theorem earliest_detection_missing_operand :
    (run ".IPPcode23\nADD GF@a int@1 # + GF@b\nWRITE GF@a").result =
      .error (.operands 2 .add (.tooFew 3 2)) ∧
    ∃ before last,
      (run ".IPPcode23\nADD GF@a int@1 # + GF@b\nWRITE GF@a").pulled = before ++ [last] ∧
      (run ".IPPcode23\nADD GF@a int@1 # + GF@b\nWRITE GF@a").pulled <+:
        scan ".IPPcode23\nADD GF@a int@1 # + GF@b\nWRITE GF@a" ∧
      (∀ accepted document, validate accepted = .ok document →
        ¬ (run ".IPPcode23\nADD GF@a int@1 # + GF@b\nWRITE GF@a").pulled <+: scan accepted) ∧
      ∃ accepted document, validate accepted = .ok document ∧ before <+: scan accepted := by
  have h : (run ".IPPcode23\nADD GF@a int@1 # + GF@b\nWRITE GF@a").result =
      .error (.operands 2 .add (.tooFew 3 2)) := by
    rw [run_result_eq_error_iff, scan_eq_lineResults (by decide)]
    rfl
  exact ⟨h, earliest_detection h⟩

end Validator

end IppCode
