import IppCode.Proofs.Validation.Agreement
import IppCode.Proofs.Validation.Continuation

/-!
# Programs one behind the other

An accepted program that ends in a newline can stand in front of any text. What follows it is
validated as if it followed the header, on later lines and under later numbers
(`validate_append_of_ok`).

Both runs are compared with a third, in which the header stands on line 0 and the text stands alone
behind it. No token is on that line, so all that the text meets of what stands in front of it are
the instructions that are complete (`agree_feed_of_rests`).

The third run is not that of any source, since lines count from 1. It is there because the two that
are to be compared do not go the same way: in both the text begins on a line of its own, but not on
the same one. Each of the two is further down than the third, by as many lines as stand in front of
the text, and two failures that are both further down than one are apart by the difference
(`Failure.Agrees.eq_moved`). Here every failure has a line, because the only one without a line is
that of a source without a program, and behind a header there is one.
-/

namespace IppCode

/-! ### The end of an accepted program

What an accepted program has come to before its end is examined: all is complete, and the stage
rests on its last line. -/

namespace Stage

/-- Before the end of a program the stage is in the middle of it, unless nothing was read. -/
theorem eq_start_or_standsOn {source : String} {stage : Stage}
    (h : start.feed (scan source).dropLast = .ok stage) :
    stage = start ∨ ∃ line, stage.StandsOn line := by
  obtain ⟨tokens, htokens⟩ := exists_tokens_of_feed_eq_ok h
  rw [htokens] at h
  rcases tokens.eq_nil_or_concat with rfl | ⟨tokens, last, rfl⟩
  · exact .inl (Except.ok.inj h).symm
  · rw [List.concat_eq_append] at htokens h
    refine .inr ⟨last.line, standsOn_of_feed h fun other hother ↦ ?_⟩
    obtain ⟨stop, hscan⟩ := scan_eq_dropLast source
    exact isEnd_of_scan_eq_append hscan (List.cons_ne_nil _ _)
      (htokens ▸ List.mem_map_of_mem hother)

theorem Rests.standsOn {stage : Stage} {line : Nat} {instructions : List Instruction}
    (h : stage.Rests line instructions) : stage.StandsOn line := by
  cases h with
  | header => exact .header line
  | instruction before line opcode found => exact .instruction before line opcode found []

/-- In the middle of a program the end is accepted behind complete lines only. -/
theorem StandsOn.rests_of_examine_end {stage : Stage} {line last : Nat} {document : Document}
    (hstage : stage.StandsOn line)
    (h : stage.examine ⟨.endOfStream, last⟩ = .ok (finished document)) :
    stage.Rests line document.instructions := by
  have hdocument : ∀ before, enter before ⟨.endOfStream, last⟩ = .ok (finished document) →
      document.instructions = before := fun before henter ↦
    congrArg Document.instructions (finished.inj (Except.ok.inj henter)).symm
  cases hstage with
  | header =>
    rw [hdocument _ (examine_header_eq_ok_iff.1 h).2]
    exact .header line
  | instruction before line opcode found missing =>
    rcases missing with - | ⟨kind, missing⟩
    · rw [hdocument _ (examine_complete_eq_ok_iff.1 h).2]
      exact .instruction before line opcode found
    · cases (Token.isOn_eq_true_iff.1 (examine_operand_eq_ok_iff.1 h).1).2

end Stage

/-- All lines of an accepted program are complete at its end. -/
theorem exists_rests_of_validate {source : String} {document : Document}
    (h : validate source = .ok document) :
    ∃ stage line, Stage.start.feed (scan source).dropLast = .ok stage ∧
      stage.Rests line document.instructions := by
  obtain ⟨last, hscan⟩ := scan_eq_dropLast source
  have hfeed := validate_eq_ok_iff_feed.1 h
  rw [hscan, Stage.feed_concat_eq_ok_iff] at hfeed
  obtain ⟨stage, hstage, hexamine⟩ := hfeed
  rcases Stage.eq_start_or_standsOn hstage with rfl | ⟨line, hline⟩
  · cases hexamine
  · exact ⟨stage, line, hstage, hline.rests_of_examine_end hexamine⟩

/-! ### Lines further down

The relation between the lines of a text and those that it has behind another one. With it, two
failures that agree are one failure, moved. -/

/-- The second line is so many lines below the first. -/
def Below (lines line line' : Nat) : Prop :=
  line' = line + lines

theorem biUnique_below (lines : Nat) : Relator.BiUnique (Below lines) :=
  ⟨fun _ _ _ h h' ↦ Nat.add_right_cancel (h.symm.trans h'), fun _ _ _ h h' ↦ h.trans h'.symm⟩

/-- What is scanned agrees with what is scanned further down. -/
theorem forall₂_agree_moved (source : String) (lines : Nat) :
    List.Forall₂ (Agree (Below lines) (Token.Agrees (Below lines)))
      (scan source) ((scan source).map (movedResult lines)) := by
  rw [List.forall₂_map_right_iff, List.forall₂_same]
  rintro (failure | token) hresult
  · obtain ⟨line, fault, rfl⟩ := exists_lexical_of_error_mem_scan hresult
    exact .error (.lexical fault rfl)
  · exact .ok ⟨rfl, fun _ ↦ rfl⟩

/-- Two lines that are below one line are apart by the difference. -/
theorem Below.eq_add {lines more line near far : Nat} (hnear : Below lines line near)
    (hfar : Below (lines + more) line far) : far = near + more := by
  rw [show near = line + lines from hnear, show far = line + (lines + more) from hfar,
    Nat.add_assoc]

/-- Two failures that agree with one further up are apart by the difference. -/
theorem Failure.Agrees.eq_moved {failure near far : Failure} {lines more : Nat}
    (hnear : failure.Agrees (Below lines) near)
    (hfar : failure.Agrees (Below (lines + more)) far) : far = near.moved more := by
  cases hnear with
  | lexical fault hline =>
    cases hfar with
    | lexical _ hline' => rw [hline.eq_add hline', Failure.moved]
  | lineless => cases hfar with | lineless => rfl
  | header fault hline =>
    cases hfar with
    | header _ hline' => rw [hline.eq_add hline', Failure.moved, Option.map_some]
  | badOpcode found hline =>
    cases hfar with
    | badOpcode _ hline' => rw [hline.eq_add hline', Failure.moved]
  | operands opcode fault hline =>
    cases hfar with
    | operands _ _ hline' => rw [hline.eq_add hline', Failure.moved]

/-! ### Failures behind the header

Behind the header every failure is on a line, so none is left that could not be moved. -/

namespace Stage

/-- No token leads back to the beginning. -/
theorem examine_ne_start {stage next : Stage} {token : Token}
    (h : stage.examine token = .ok next) : next ≠ start := by
  have henter : ∀ before, enter before token = .ok next → next ≠ start := fun before henter ↦ by
    rcases enter_eq_ok_iff.1 henter with ⟨op, -, rfl⟩ | ⟨-, rfl⟩ <;> exact Stage.noConfusion
  rcases stage with - | line | ⟨before, line, opcode, found, - | ⟨kind, missing⟩⟩ | document
  · obtain ⟨-, rfl⟩ := examine_start_eq_ok_iff.1 h
    exact Stage.noConfusion
  · exact henter _ (examine_header_eq_ok_iff.1 h).2
  · exact henter _ (examine_complete_eq_ok_iff.1 h).2
  · obtain ⟨-, operand, -, rfl⟩ := examine_operand_eq_ok_iff.1 h
    exact Stage.noConfusion
  · cases h
    exact Stage.noConfusion

/-- Behind the header every token that is refused is refused on a line. -/
theorem exists_line_of_examine {stage : Stage} {token : Token} {failure : Failure}
    (hstage : stage ≠ start) (h : stage.examine token = .error failure) :
    ∃ line, failure.line? = some line := by
  have henter : ∀ before, enter before token = .error failure →
      ∃ line, failure.line? = some line := fun before henter ↦ by
    obtain ⟨-, -, rfl⟩ := enter_eq_error_iff.1 henter
    exact ⟨token.line, rfl⟩
  rcases stage with - | line | ⟨before, line, opcode, found, - | ⟨kind, missing⟩⟩ | document
  · exact absurd rfl hstage
  · rcases examine_header_eq_error_iff.1 h with ⟨-, rfl⟩ | ⟨-, h⟩
    · exact ⟨line, rfl⟩
    · exact henter _ h
  · rcases examine_complete_eq_error_iff.1 h with ⟨-, rfl⟩ | ⟨-, h⟩
    · exact ⟨line, rfl⟩
    · exact henter _ h
  · rcases examine_operand_eq_error_iff.1 h with ⟨-, fault, -, rfl⟩ | ⟨-, rfl⟩
    · exact ⟨line, rfl⟩
    · exact ⟨line, rfl⟩
  · cases h

/-- Behind the header every failure has a line. -/
theorem exists_line_of_feed {stage : Stage} {results : List (Except Failure Token)}
    {failure : Failure} (hstage : stage ≠ start)
    (hresults : ∀ failure, .error failure ∈ results → ∃ line fault, failure = .lexical line fault)
    (h : stage.feed results = .error failure) : ∃ line, failure.line? = some line := by
  induction results generalizing stage with
  | nil => cases h
  | cons result results ih =>
    rcases result with failure' | token
    · obtain rfl := Except.error.inj h
      obtain ⟨line, fault, rfl⟩ := hresults _ List.mem_cons_self
      exact ⟨line, rfl⟩
    rcases hexamine : stage.examine token with failure' | next
    · rw [feed_ok_cons_of_error hexamine] at h
      obtain rfl := Except.error.inj h
      exact exists_line_of_examine hstage hexamine
    · rw [feed_ok_cons_of_ok hexamine] at h
      exact ih (examine_ne_start hexamine) (fun _ hmem ↦ hresults _ (List.mem_cons_of_mem _ hmem)) h

end Stage

/-! ### What follows complete lines

A text is fed from two stages that rest, one behind the header alone and one behind a whole program.
They agree, and so does all that follows. -/

/-- **A text behind complete lines meets nothing of them** but the instructions that they hold. -/
theorem agree_feed_of_rests {stage : Stage} {line lines : Nat} {instructions : List Instruction}
    {more : String} (hrests : stage.Rests line instructions)
    (hoff : ∀ token, .ok token ∈ scan more → (token.moved lines).isOn line = false) :
    Agree (Below lines) (Stage.Agrees (Below lines) instructions)
      ((Stage.header 0).feed (scan more)) (stage.feed ((scan more).map (movedResult lines))) := by
  have hagree := forall₂_agree_moved more lines
  rcases hscan : scan more with - | ⟨failure | token, results⟩
  · obtain ⟨last, hlast⟩ := scan_eq_dropLast more
    simp [hscan] at hlast
  · rw [hscan, List.map_cons, List.forall₂_cons] at hagree
    cases hagree.1 with
    | error hfailure => exact .error hfailure
  have hmem : .ok token ∈ scan more := hscan ▸ List.mem_cons_self
  rw [hscan, List.map_cons, movedResult_ok, List.forall₂_cons] at hagree
  -- the first token is on the last line of neither
  have hzero : token.isOn 0 = false :=
    Token.isOn_eq_false_iff.2 (.inr (Nat.ne_of_gt (line_pos_of_mem_scan hmem)))
  have htoken : token.Agrees (Below lines) (token.moved lines) := ⟨rfl, fun _ ↦ rfl⟩
  have henter : Agree (Below lines) (Stage.Agrees (Below lines) instructions)
      (Stage.enter [] token) (Stage.enter (joined instructions []) (token.moved lines)) :=
    htoken.enter []
  rw [joined_nil_right, ← Stage.examine_of_rests (.header 0) hzero,
    ← Stage.examine_of_rests hrests (hoff token hmem)] at henter
  rw [List.map_cons, movedResult_ok, Stage.feed_ok_cons, Stage.feed_ok_cons]
  exact henter.bind fun next next' hnext ↦ hnext.feed (biUnique_below lines) hagree.2

/-- What follows an accepted program that ends in a newline is validated as if it followed a header
that stands on line 0. -/
theorem agree_validate_append {source : String} {document : Document}
    (hsource : source.toList.getLast? = some '\n') (h : validate source = .ok document)
    (more : String) :
    Agree (Below (source.toList.count '\n'))
      (fun stage composed ↦ ∃ later, stage = .finished later ∧
        composed = later.behind document.instructions)
      ((Stage.header 0).feed (scan more)) (validate (source ++ more)) := by
  obtain ⟨stage, line, hfeed, hrests⟩ := exists_rests_of_validate h
  refine agree_of_feed ?_
  rw [scan_append hsource, Stage.feed_append_of_ok hfeed]
  exact agree_feed_of_rests hrests fun token htoken ↦
    hrests.standsOn.isOn_moved hsource hfeed htoken

/-- The header alone is a program, without any instruction. -/
theorem validate_headerLine : validate (headerText ++ "\n") = .ok ⟨Document.languageName, []⟩ :=
  validate_eq_ok_iff_feed.2 (by rw [scan_eq_lineResults (by decide)]; rfl)

/-- **What follows an accepted program that ends in a newline is validated as behind the header.**
It is accepted behind the one exactly when it is accepted behind the other, and then its
instructions are numbered on from those of the program. It is refused with the same failure, further
down by as many lines as the program has more than the header. -/
theorem validate_append_of_ok {source : String} {document : Document}
    (hsource : source.toList.getLast? = some '\n') (h : validate source = .ok document)
    (more : String) :
    ((∃ composed, validate (source ++ more) = .ok composed) ↔
      ∃ later, validate (headerText ++ "\n" ++ more) = .ok later) ∧
    (∀ later, validate (headerText ++ "\n" ++ more) = .ok later →
      validate (source ++ more) = .ok ⟨later.language, document.instructions ++
        later.instructions.map fun instruction ↦
          { instruction with order := instruction.order + document.instructions.length }⟩) ∧
    ∀ failure, validate (headerText ++ "\n" ++ more) = .error failure →
      (∃ line, failure.line? = some line) ∧
      validate (source ++ more) = .error (failure.moved (source.toList.count '\n' - 1)) := by
  obtain ⟨lines, hlines⟩ : ∃ lines, source.toList.count '\n' = 1 + lines :=
    Nat.exists_eq_add_of_le (List.count_pos_iff.2 (List.mem_of_getLast? hsource))
  -- the header is a program too, so both are behind an accepted one
  have hfar := agree_validate_append hsource h more
  have hnear : Agree (Below 1) _ _ (validate (headerText ++ "\n" ++ more)) :=
    agree_validate_append (by decide) validate_headerLine more
  rw [hlines] at hfar ⊢
  rw [Nat.add_sub_cancel_left]
  rcases hstage : (Stage.header 0).feed (scan more) with failure | stage
  · rw [hstage] at hnear hfar
    obtain ⟨near, hvalidate, hfailure⟩ := hnear.exists_error
    obtain ⟨far, hvalidate', hfailure'⟩ := hfar.exists_error
    obtain ⟨line, hline⟩ := Stage.exists_line_of_feed Stage.noConfusion
      (fun _ ↦ exists_lexical_of_error_mem_scan) hstage
    rw [hvalidate, hvalidate', hfailure.eq_moved hfailure']
    refine ⟨by simp, by simp, ?_⟩
    rintro _ ⟨⟩
    obtain ⟨line', hline', -⟩ := hfailure.exists_line hline
    exact ⟨⟨line', hline'⟩, rfl⟩
  · rw [hstage] at hnear hfar
    obtain ⟨composed, hvalidate, later, rfl, rfl⟩ := hnear.exists_ok
    obtain ⟨composed', hvalidate', later', hlater, rfl⟩ := hfar.exists_ok
    obtain rfl := Stage.finished.inj hlater
    rw [hvalidate, hvalidate', Document.behind_nil]
    refine ⟨by simp, ?_, by simp⟩
    rintro _ ⟨⟩
    rfl

/-- Behind two instructions a third is numbered 3, and a failure on line 3 is one on line 6. -/
theorem validate_append_of_ok_two_instructions :
    ".IPPcode23\nBREAK#1\n\nBREAK\n".toList.getLast? = some '\n' ∧
    validate ".IPPcode23\nBREAK#1\n\nBREAK\n" =
      .ok ⟨"IPPcode23", [⟨1, .brk, []⟩, ⟨2, .brk, []⟩]⟩ ∧
    validate (".IPPcode23\nBREAK#1\n\nBREAK\n" ++ "LABEL x") =
      .ok ⟨"IPPcode23", [⟨1, .brk, []⟩, ⟨2, .brk, []⟩, ⟨3, .label, [⟨.label, "x"⟩]⟩]⟩ ∧
    validate (".IPPcode23\nBREAK#1\n\nBREAK\n" ++ "LABEL x\nGF@x") =
      .error (.badOpcode 6 "GF@x") := by
  have hsource : ".IPPcode23\nBREAK#1\n\nBREAK\n".toList.getLast? = some '\n' := by decide
  have hvalidate : validate ".IPPcode23\nBREAK#1\n\nBREAK\n" =
      .ok ⟨"IPPcode23", [⟨1, .brk, []⟩, ⟨2, .brk, []⟩]⟩ :=
    validate_eq_ok_iff_feed.2 (by rw [scan_eq_lineResults (by decide)]; rfl)
  refine ⟨hsource, hvalidate, ?_, ?_⟩
  · have hmore : validate (headerText ++ "\n" ++ "LABEL x") =
        .ok ⟨"IPPcode23", [⟨1, .label, [⟨.label, "x"⟩]⟩]⟩ :=
      validate_eq_ok_iff_feed.2 (by rw [scan_eq_lineResults (by decide)]; rfl)
    exact (validate_append_of_ok hsource hvalidate "LABEL x").2.1 _ hmore
  · have hmore : validate (headerText ++ "\n" ++ "LABEL x\nGF@x") =
        .error (.badOpcode 3 "GF@x") :=
      Validator.run_result_eq_error_iff.2 (by rw [scan_eq_lineResults (by decide)]; rfl)
    exact ((validate_append_of_ok hsource hvalidate "LABEL x\nGF@x").2.2 _ hmore).2

end IppCode
