import IppCode.Proofs.Grammar.LineScan
import IppCode.Proofs.Scan.Append
import IppCode.Proofs.Validation.Simulation
import IppCode.Proofs.Words.Classification

/-!
# More text behind a rejected program

Complete lines that are rejected stay rejected, whatever stands behind them, and nearly always with
the same failure (`Validator.failure_of_complete_lines`). A failure that is noticed before the end
of the lines is not touched by what follows. One that is noticed at the end is that of an
instruction without all its operands; it is noticed again at the first token behind the lines, since
that is on a later line. But a control character in the place of that token is reported itself.

Nothing else can be reported there: the first word of a text is always some token
(`exists_control_of_head?_scan`).

The text behind complete lines is scanned as it would be by itself, but for the lines, which are
counted on. Hence all statements are about two scans and not about one: that of the lines without
its end, and that of the text behind them with its lines moved.

The exception is a real one (`Validator.not_failure_of_complete_lines`). An operand is missed where
something else stands in its place, and a control character is nothing that could stand anywhere, so
the failure further down is reported in the place of the one further up.
-/

namespace IppCode

/-! ### The first result of a scan

Which sources begin with a failure: those whose first item is a control character. A word at the
beginning of a source is always some token. -/

/-- At the beginning of a line the next word is the first of its line. -/
theorem Cursor.first_of_head?_items {cursor : Cursor} (hstart : cursor.atLineStart = true)
    {item : Located} (hitem : cursor.items.head? = some item) {text : String} {first : Bool}
    (hlexeme : item.lexeme = .word text first) : first = true := by
  induction cursor using Cursor.induction with
  | nil offset line flag => simp at hitem
  | newline rest offset line flag ih => exact ih rfl (items_newline ▸ hitem)
  | comment rest offset line flag ih => exact ih hstart (items_comment ▸ hitem)
  | blank c rest offset line flag hc ih => exact ih hstart (items_blank hc ▸ hitem)
  | stray c rest offset line flag hc ih =>
    rw [items_stray hc] at hitem
    obtain rfl := Option.some.inj hitem
    cases hlexeme
  | word c rest offset line flag hc ih =>
    rw [items_word hc] at hitem
    obtain rfl := Option.some.inj hitem
    cases hlexeme
    exact hstart

/-- A scan can begin with a failure only at a control character. -/
theorem exists_control_of_head?_scan {source : String} {failure : Failure}
    (h : (scan source).head? = some (.error failure)) :
    ∃ line c, failure = .lexical line (.invalidCharacter c) := by
  rw [scan_eq] at h
  rcases hitems : (Cursor.start source).items with - | ⟨item, items⟩
  · simp [hitems] at h
  rw [hitems, List.map_cons, List.cons_append, List.head?_cons, Option.some.injEq] at h
  rcases hlexeme : item.lexeme with ⟨text, first⟩ | c
  · obtain rfl := Cursor.first_of_head?_items rfl (by rw [hitems, List.head?_cons]) hlexeme
    obtain ⟨kind, hkind⟩ := TokenKind.ofWord_leading text
    rw [Located.result, hlexeme, TokenKind.ofLexeme, hkind] at h
    cases h
  · rw [Located.result, hlexeme] at h
    exact ⟨item.line, c, (Except.error.inj h).symm⟩

/-- It does begin with a failure there. -/
theorem head?_scan_of_isStray {source : String} {c : Char} {rest : List Char}
    (hsource : source.toList = c :: rest) (hc : isStray c = true) :
    (scan source).head? = some (.error (.lexical 1 (.invalidCharacter c))) := by
  rw [scan_eq, Cursor.start, hsource, Cursor.items_stray hc]
  rfl

/-! ### Lines of tokens

All tokens of a scan are on lines of the source, and only the end can be on one that has no word. -/

/-- Lines count from 1. -/
theorem line_pos_of_mem_scan {source : String} {token : Token} (h : .ok token ∈ scan source) :
    1 ≤ token.line := by
  rw [scan_eq, List.mem_append, List.mem_singleton] at h
  rcases h with h | h
  · obtain ⟨item, hitem, hresult⟩ := List.mem_map.1 h
    rw [(Located.result_eq_ok_iff.1 hresult).2]
    exact Cursor.line_le_of_mem_items hitem
  · cases h
    exact Nat.le_add_right 1 _

/-- No token of complete lines is on a line behind them. -/
theorem line_le_of_mem_dropLast_scan {source : String}
    (hsource : source.toList.getLast? = some '\n') {token : Token}
    (h : .ok token ∈ (scan source).dropLast) : token.line ≤ source.toList.count '\n' := by
  obtain ⟨text, htext⟩ := List.getLast?_eq_some_iff.1 hsource
  rw [← String.toList_ofList (l := text)] at htext
  rw [scan_newline htext, List.dropLast_concat] at h
  obtain ⟨item, hitem, hresult⟩ := List.mem_map.1 h
  have hle := Cursor.line_le_lastLine_of_mem_items hitem
  rw [(Located.result_eq_ok_iff.1 hresult).2, htext, List.count_append, List.count_singleton_self]
  rwa [Cursor.lastLine_start, Nat.add_comm] at hle

/-! ### Tokens behind complete lines

A token of the text behind is on none of the lines in front. -/

/-- No token of the text behind complete lines is on the line that they have come to. -/
theorem Stage.StandsOn.isOn_moved {source more : String} {stage : Stage} {line : Nat}
    (hstage : stage.StandsOn line) (hsource : source.toList.getLast? = some '\n')
    (hfeed : start.feed (scan source).dropLast = .ok stage) {token : Token}
    (htoken : .ok token ∈ scan more) :
    (token.moved (source.toList.count '\n')).isOn line = false := by
  obtain ⟨tokens, htokens⟩ := exists_tokens_of_feed_eq_ok hfeed
  rw [htokens] at hfeed
  rcases tokens.eq_nil_or_concat with rfl | ⟨tokens, last, rfl⟩
  · cases hfeed
    cases hstage
  rw [List.concat_eq_append] at htokens hfeed
  have hend : ∀ other ∈ tokens ++ [last], other.isEnd = false := fun other hother ↦ by
    obtain ⟨stop, hscan⟩ := scan_eq_dropLast source
    exact isEnd_of_scan_eq_append hscan (List.cons_ne_nil _ _)
      (htokens ▸ List.mem_map_of_mem hother)
  have hlast : last.line ≤ source.toList.count '\n' :=
    line_le_of_mem_dropLast_scan hsource (htokens ▸ List.mem_map_of_mem (by simp))
  have hpos : 1 ≤ token.line := line_pos_of_mem_scan htoken
  obtain rfl : line = last.line := hstage.unique (standsOn_of_feed hfeed hend)
  have hne : token.line + source.toList.count '\n' ≠ last.line := by omega
  exact Token.isOn_eq_false_iff.2 (.inr hne)

/-! ### The end of the stream

Where a run has to look at the end of its source, that source could have gone on. More text behind
it takes the place of the end, and what the run makes of it is settled by its first result. -/

/-- At the end an operand can be missing, or everything. -/
theorem Stage.examine_end_eq_error {stage : Stage} {token : Token} {failure : Failure}
    (h : stage.examine token = .error failure) (hend : token.isEnd = true) :
    failure = .header none .emptyProgram ∨
      ∃ before line opcode found kind kinds,
        stage = .instruction before line opcode found (kind :: kinds) ∧
        failure = .operands line opcode (.tooFew opcode.signature.arity found.length) := by
  have hon : ∀ line, token.isOn line ≠ true := fun line hon ↦ by
    simp [(Token.isOn_eq_true_iff.1 hon).2] at hend
  have henter : ∀ {before}, Stage.enter before token ≠ .error failure := fun henter ↦ by
    simp [(Stage.enter_eq_error_iff.1 henter).1] at hend
  rcases stage with - | line | ⟨before, line, opcode, found, - | ⟨kind, kinds⟩⟩ | document
  · rcases Stage.examine_start_eq_error_iff.1 h with ⟨-, rfl⟩ | ⟨hfalse, -⟩
    · exact .inl rfl
    · simp [hfalse] at hend
  · rcases Stage.examine_header_eq_error_iff.1 h with ⟨htrue, -⟩ | ⟨-, hfail⟩
    · exact absurd htrue (hon line)
    · exact absurd hfail henter
  · rcases Stage.examine_complete_eq_error_iff.1 h with ⟨htrue, -⟩ | ⟨-, hfail⟩
    · exact absurd htrue (hon line)
    · exact absurd hfail henter
  · rcases Stage.examine_operand_eq_error_iff.1 h with ⟨htrue, -⟩ | ⟨-, rfl⟩
    · exact absurd htrue (hon line)
    · exact .inr ⟨before, line, opcode, found, kind, kinds, rfl, rfl⟩
  · cases h

namespace Validator

/-- A failing run has pulled the end of the stream exactly when all before it was accepted. -/
theorem pulled_eq_scan_iff {source : String} {failure : Failure}
    (h : (run source).result = .error failure) :
    (run source).pulled = scan source ↔
      ∃ stage, Stage.start.feed (scan source).dropLast = .ok stage := by
  obtain ⟨before, last, stage, hpulled, hbefore, hlast, rest, hscan⟩ := run_outcome_of_error h
  rw [hpulled] at hscan ⊢
  constructor
  · intro heq
    rw [← heq, List.dropLast_concat]
    exact ⟨stage, hbefore⟩
  · rintro ⟨stage', hfeed⟩
    rcases rest.eq_nil_or_concat with rfl | ⟨rest, result, rfl⟩
    · rwa [List.append_nil] at hscan
    · rw [List.concat_eq_append, ← List.append_assoc] at hscan
      rw [← hscan, List.dropLast_concat, Stage.feed_append_of_error
        ((Stage.feed_append_of_ok hbefore).trans hlast)] at hfeed
      cases hfeed

/-- A program that begins with complete lines fails as these do and what follows them further
down. -/
theorem validate_append_eq_error_iff {source : String}
    (hsource : source.toList.getLast? = some '\n') {more : String} {failure : Failure} :
    validate (source ++ more) = .error failure ↔
      Stage.start.feed ((scan source).dropLast ++
        (scan more).map (movedResult (source.toList.count '\n'))) = .error failure := by
  rw [← scan_append hsource]
  exact run_result_eq_error_iff

/-- A failure that is noticed before the end of complete lines is that of every program which they
begin. -/
theorem validate_append_of_feed {source : String} {failure : Failure}
    (hsource : source.toList.getLast? = some '\n')
    (h : Stage.start.feed (scan source).dropLast = .error failure) (more : String) :
    validate (source ++ more) = .error failure :=
  (validate_append_eq_error_iff hsource).2 (Stage.feed_append_of_error h)

/-- An operand that is missing at the end of complete lines is missed at the token behind them, or
the scanner fails there. -/
theorem validate_append_of_missing {source : String} {before : List Instruction} {line : Nat}
    {opcode : Opcode} {found : List Operand} {kind : OperandKind} {kinds : List OperandKind}
    (hsource : source.toList.getLast? = some '\n')
    (h : Stage.start.feed (scan source).dropLast =
      .ok (.instruction before line opcode found (kind :: kinds))) (more : String) :
    (validate (source ++ more) =
        .error (.operands line opcode (.tooFew opcode.signature.arity found.length)) ∧
      ∃ token, (scan more).head? = some (.ok token)) ∨
    ∃ k c, (scan more).head? = some (.error (.lexical k (.invalidCharacter c))) ∧
      validate (source ++ more) =
        .error (.lexical (k + source.toList.count '\n') (.invalidCharacter c)) := by
  have hvalidate : ∀ failure, validate (source ++ more) = .error failure ↔
      (Stage.instruction before line opcode found (kind :: kinds)).feed
        ((scan more).map (movedResult (source.toList.count '\n'))) = .error failure := by
    intro failure
    rw [validate_append_eq_error_iff hsource, Stage.feed_append_of_ok h]
  -- the first result behind the lines decides
  rcases hmore : scan more with - | ⟨failure | token, later⟩
  · obtain ⟨last, hlast⟩ := scan_eq_dropLast more
    simp [hmore] at hlast
  · obtain ⟨k, c, rfl⟩ := exists_control_of_head?_scan (by rw [hmore, List.head?_cons])
    refine .inr ⟨k, c, by rw [List.head?_cons], (hvalidate _).2 ?_⟩
    rw [hmore, List.map_cons, movedResult_error, Stage.feed_error_cons, Failure.moved]
  · refine .inl ⟨(hvalidate _).2 ?_, token, by rw [List.head?_cons]⟩
    have hoff := (Stage.StandsOn.instruction before line opcode found (kind :: kinds)).isOn_moved
      hsource h (hmore ▸ List.mem_cons_self)
    rw [hmore, List.map_cons, movedResult_ok]
    exact Stage.feed_ok_cons_of_error (Stage.examine_operand_eq_error_iff.2 (.inr ⟨hoff, rfl⟩))

/-- What follows complete lines takes the place of their failure: the failure is noticed at their
end, and the text behind them begins, on the given line of its own, with a control character. -/
def Overtaken (source more : String) (line : Nat) (c : Char) : Prop :=
  (run source).pulled = scan source ∧
    (scan more).head? = some (.error (.lexical line (.invalidCharacter c)))

/-- **The failure of complete lines is that of every program which they begin**, but for one case:
when an operand is missing at their very end, and the text behind them begins with a control
character, then that character is reported. -/
theorem failure_of_complete_lines {source : String} {failure : Failure} {line : Nat}
    (hsource : source.toList.getLast? = some '\n') (h : validate source = .error failure)
    (hline : failure.line? = some line) (more : String) :
    (validate (source ++ more) = .error failure ↔ ∀ k c, ¬ Overtaken source more k c) ∧
      ∀ k c, Overtaken source more k c →
        (∃ opcode expected found, failure = .operands line opcode (.tooFew expected found)) ∧
        validate (source ++ more) =
          .error (.lexical (k + source.toList.count '\n') (.invalidCharacter c)) := by
  have hpulled := pulled_eq_scan_iff h
  have hfeed := run_result_eq_error_iff.1 h
  obtain ⟨last, hscan⟩ := scan_eq_dropLast source
  rcases hbefore : Stage.start.feed (scan source).dropLast with failure' | stage
  · -- the failure is noticed before the end
    rw [hscan, Stage.feed_append_of_error hbefore] at hfeed
    obtain rfl := Except.error.inj hfeed
    have hnot : ∀ k c, ¬ Overtaken source more k c := fun k c hover ↦ by
      obtain ⟨stage, hstage⟩ := hpulled.1 hover.1
      cases hbefore.symm.trans hstage
    exact ⟨iff_of_true (validate_append_of_feed hsource hbefore more) hnot,
      fun k c hover ↦ absurd hover (hnot k c)⟩
  · -- the failure is noticed at the end
    rw [hscan, Stage.feed_concat_of_ok hbefore] at hfeed
    rcases Stage.examine_end_eq_error hfeed rfl with
      rfl | ⟨before, line', opcode, found, kind, kinds, rfl, rfl⟩
    · cases hline
    obtain rfl : line' = line := Option.some.inj hline
    rcases validate_append_of_missing hsource hbefore more with
      ⟨hmore, token, htoken⟩ | ⟨k, c, hcontrol, hmore⟩
    · have hnot : ∀ k c, ¬ Overtaken source more k c := fun k c hover ↦ by
        cases htoken.symm.trans hover.2
      exact ⟨iff_of_true hmore hnot, fun k c hover ↦ absurd hover (hnot k c)⟩
    · have hover : Overtaken source more k c := ⟨hpulled.2 ⟨_, hbefore⟩, hcontrol⟩
      refine ⟨iff_of_false (fun heq ↦ ?_) (fun hnot ↦ hnot k c hover), fun k' c' hover' ↦ ?_⟩
      · cases hmore.symm.trans heq
      · cases hcontrol.symm.trans hover'.2
        exact ⟨⟨opcode, _, _, rfl⟩, hmore⟩

/-- The second operand of the last line is missing. -/
theorem feed_missing_operand :
    Stage.start.feed (scan ".IPPcode23\nMOVE GF@x\n").dropLast =
      .ok (.instruction [] 2 .move [.var ⟨.gf, "x", by decide⟩] [.symb]) := by
  rw [scan_eq_lineResults (by decide)]
  rfl

theorem validate_missing_operand :
    validate ".IPPcode23\nMOVE GF@x\n" = .error (.operands 2 .move (.tooFew 2 1)) := by
  rw [validate, run_result_eq_error_iff, scan_eq_lineResults (by decide)]
  rfl

/-- The missing operand is reported whether or not an instruction follows. -/
theorem failure_of_complete_lines_missing_operand :
    ".IPPcode23\nMOVE GF@x\n".toList.getLast? = some '\n' ∧
    validate ".IPPcode23\nMOVE GF@x\n" = .error (.operands 2 .move (.tooFew 2 1)) ∧
    (Failure.operands 2 .move (.tooFew 2 1)).line? = some 2 ∧
    validate (".IPPcode23\nMOVE GF@x\n" ++ "WRITE GF@x") =
      .error (.operands 2 .move (.tooFew 2 1)) := by
  have hsource : ".IPPcode23\nMOVE GF@x\n".toList.getLast? = some '\n' := by decide
  have hmore : (scan "WRITE GF@x").head? = some (.ok ⟨.opcode .write, 1⟩) := by
    rw [scan_eq_lineResults (by decide)]
    rfl
  refine ⟨hsource, validate_missing_operand, rfl, ?_⟩
  refine (failure_of_complete_lines hsource validate_missing_operand rfl "WRITE GF@x").1.2 ?_
  rintro k c ⟨-, hcontrol⟩
  cases hmore.symm.trans hcontrol

/-- It is not reported when a control character follows, so more text can change what is reported
about complete lines. -/
theorem not_failure_of_complete_lines :
    ¬ ∀ (source more : String) (failure : Failure) (line : Nat),
      source.toList.getLast? = some '\n' → validate source = .error failure →
        failure.line? = some line → validate (source ++ more) = .error failure := by
  intro h
  have hsource : ".IPPcode23\nMOVE GF@x\n".toList.getLast? = some '\n' := by decide
  have hmore : (scan "\x01").head? = some (.error (.lexical 1 (.invalidCharacter '\x01'))) :=
    head?_scan_of_isStray rfl (by decide)
  have hsame := h _ "\x01" _ 2 hsource validate_missing_operand rfl
  rcases validate_append_of_missing hsource feed_missing_operand "\x01" with
    ⟨-, token, htoken⟩ | ⟨k, c, -, hcontrol⟩
  · cases hmore.symm.trans htoken
  · cases hcontrol.symm.trans hsame

end Validator

end IppCode
