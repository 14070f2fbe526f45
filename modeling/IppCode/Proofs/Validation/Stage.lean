import IppCode.Validator
import Mathlib.Data.List.Induction

/-!
# The stages of a program

What the results of a scan, taken one after the other, make of a program. A `Stage` says how far
they have come, `Stage.examine` what one more token does, and `Stage.feed` what a whole list of
results does: it goes on to a later stage or stops at the first failure.

The tokens are examined in the order in which they are scanned, and nothing is held over: an
instruction is left only by the token that begins a later line or ends the program
(`examine_of_rests`). That the validator arrives at the same verdict, from the same results, is in
`IppCode.Proofs.Validation.Simulation`.

What one token can do is listed once for each stage, by one `iff` for the tokens that are accepted
and one for those that are refused. Everything later is derived from these, and does not open
`examine` again. A list of results is taken apart at its front (`feed_cons_eq_ok_iff`), for an
induction along the lines of a program, or at its end (`feed_concat_eq_ok_iff`), for one along a
run.

Stages in the middle of a program stand on a line (`StandsOn`). It is that of the last token, so the
tokens of a line can be told from the first one behind it without a look back.
-/

namespace IppCode

/-! ### The line of a token

The end has a line, but it is on none. All comparisons of lines go through these three facts. -/

/-- The end is on no line, although it has one. -/
theorem Token.isOn_eq_true_iff {token : Token} {line : Nat} :
    token.isOn line = true ↔ token.line = line ∧ token.isEnd = false := by
  simp [isOn]

theorem Token.isOn_eq_false_iff {token : Token} {line : Nat} :
    token.isOn line = false ↔ token.isEnd = true ∨ token.line ≠ line := by
  rw [← Bool.not_eq_true, isOn_eq_true_iff, not_and_or, Bool.not_eq_false, or_comm]

/-- A token that is not on the line, is not the end and not on an earlier line is on a later one. -/
theorem Token.line_lt_of_isOn_eq_false {token : Token} {line : Nat}
    (hoff : token.isOn line = false) (hend : token.isEnd = false) (hline : line ≤ token.line) :
    line < token.line := by
  have hne : token.line ≠ line := (isOn_eq_false_iff.1 hoff).resolve_left (by simp [hend])
  omega

/-! ### Stages

A stage is data and can be compared. It has no scanner in it, and no builder. -/

/-- How far the tokens of a program have come. -/
inductive Stage
  /-- No token has been examined. -/
  | start
  /-- The header stands on the line, so far alone. -/
  | header (line : Nat)
  /-- The instructions `before` are complete; that of the opcode on the line has the operands
  `found` and calls for the kinds `missing`. -/
  | instruction (before : List Instruction) (line : Nat) (opcode : Opcode)
      (found : List Operand) (missing : List OperandKind)
  /-- The end has been examined, and the document is made. -/
  | finished (document : Document)
  deriving DecidableEq

namespace Stage

/-! ### One token

What the validator does with a token, without regard to how it gets it. -/

/-- The stage after the token that follows the complete instructions `before`. -/
def enter (before : List Instruction) (token : Token) : Except Failure Stage :=
  match token.kind with
  | .opcode op => .ok (instruction before token.line op [] op.operandKinds)
  | .endOfStream => .ok (finished ⟨Document.languageName, before⟩)
  | other => .error (.badOpcode token.line other.text)

/-- The instructions `before` with one more at the end, under the next number. -/
def numbered (before : List Instruction) (opcode : Opcode) (operands : List Operand) :
    List Instruction :=
  before ++ [.ofOperands (before.length + 1) opcode operands]

/-- The stage after one more token. -/
def examine : Stage → Token → Except Failure Stage
  | start, token =>
    match token.kind with
    | .header => .ok (header token.line)
    | .endOfStream => .error (.header none .emptyProgram)
    | other => .error (.header (some token.line) (.missing other.text))
  | header line, token =>
    if token.isOn line then .error (.header (some line) (.notAlone token.kind.text))
    else enter [] token
  | instruction before line opcode found [], token =>
    if token.isOn line then
      .error (.operands line opcode (.tooMany opcode.signature.arity token.kind.text))
    else enter (numbered before opcode found) token
  | instruction before line opcode found (kind :: kinds), token =>
    if token.isOn line then
      match Operand.ofToken (found.length + 1) kind token.kind with
      | .ok operand => .ok (instruction before line opcode (found ++ [operand]) kinds)
      | .error fault => .error (.operands line opcode fault)
    else .error (.operands line opcode (.tooFew opcode.signature.arity found.length))
  | finished document, _ => .ok (finished document)

/-! ### What a token can do

Each stage by itself, once for what is accepted and once for what is refused. Together the two say
all that `examine` does at the stage. -/

section Examine

variable {before : List Instruction} {line : Nat} {opcode : Opcode} {found : List Operand}
  {kind : OperandKind} {kinds : List OperandKind} {token : Token} {next : Stage}

/-- Behind complete instructions stands an opcode or the end. -/
theorem enter_eq_ok_iff :
    enter before token = .ok next ↔
      (∃ op, token.kind = .opcode op ∧
        next = instruction before token.line op [] op.operandKinds) ∨
      (token.isEnd = true ∧ next = finished ⟨Document.languageName, before⟩) := by
  rw [enter]
  rcases hkind : token.kind with - | op | _ | _ | _ | _ | - <;>
    simp [Token.isEnd, hkind, eq_comm]

/-- Anything else there is taken for a bad opcode. -/
theorem enter_eq_error_iff {failure : Failure} :
    enter before token = .error failure ↔
      token.isEnd = false ∧ (∀ op, token.kind ≠ .opcode op) ∧
        failure = .badOpcode token.line token.kind.text := by
  rw [enter]
  rcases hkind : token.kind with - | op | _ | _ | _ | _ | - <;>
    simp [Token.isEnd, hkind, eq_comm]

theorem examine_start_eq_ok_iff :
    start.examine token = .ok next ↔ token.kind = .header ∧ next = header token.line := by
  rw [examine]
  rcases hkind : token.kind with - | op | _ | _ | _ | _ | - <;> simp [eq_comm]

/-- Without any token there is no program, and no line to report; any other token is in the header's
place. -/
theorem examine_start_eq_error_iff {failure : Failure} :
    start.examine token = .error failure ↔
      (token.isEnd = true ∧ failure = .header none .emptyProgram) ∨
      (token.isEnd = false ∧ token.kind ≠ .header ∧
        failure = .header (some token.line) (.missing token.kind.text)) := by
  rw [examine]
  rcases hkind : token.kind with - | op | _ | _ | _ | _ | - <;>
    simp [Token.isEnd, hkind, eq_comm]

/-- Behind the header comes what may come behind no instructions, but not on its line. -/
theorem examine_header_eq_ok_iff :
    (header line).examine token = .ok next ↔
      token.isOn line = false ∧ enter [] token = .ok next := by
  rcases hline : token.isOn line with - | - <;> simp [examine, hline]

/-- A header that is not alone is refused by its line, and a token on a later line for itself. -/
theorem examine_header_eq_error_iff {failure : Failure} :
    (header line).examine token = .error failure ↔
      (token.isOn line = true ∧ failure = .header (some line) (.notAlone token.kind.text)) ∨
      (token.isOn line = false ∧ enter [] token = .error failure) := by
  rcases hline : token.isOn line with - | - <;> simp [examine, hline, eq_comm]

/-- Behind the last operand comes what may come behind one more instruction, but not on its line. -/
theorem examine_complete_eq_ok_iff :
    (instruction before line opcode found []).examine token = .ok next ↔
      token.isOn line = false ∧ enter (numbered before opcode found) token = .ok next := by
  rcases hline : token.isOn line with - | - <;> simp [examine, hline]

/-- A token behind the last operand is one too many if it is on the line, whatever it is. -/
theorem examine_complete_eq_error_iff {failure : Failure} :
    (instruction before line opcode found []).examine token = .error failure ↔
      (token.isOn line = true ∧ failure =
        .operands line opcode (.tooMany opcode.signature.arity token.kind.text)) ∨
      (token.isOn line = false ∧ enter (numbered before opcode found) token = .error failure) := by
  rcases hline : token.isOn line with - | - <;> simp [examine, hline, eq_comm]

/-- Where an operand is called for, a token that fits is it. Fitting depends on the kind, and not on
what was found before. -/
theorem examine_operand_eq_ok_iff :
    (instruction before line opcode found (kind :: kinds)).examine token = .ok next ↔
      token.isOn line = true ∧ ∃ operand,
        Operand.ofToken (found.length + 1) kind token.kind = .ok operand ∧
          next = instruction before line opcode (found ++ [operand]) kinds := by
  rcases hline : token.isOn line with - | -
  · simp [examine, hline]
  · rcases hoperand : Operand.ofToken (found.length + 1) kind token.kind with fault | operand <;>
      simp [examine, hline, hoperand, eq_comm]

/-- A token that does not fit is refused for itself if it is on the line, and else the line for
being too short. -/
theorem examine_operand_eq_error_iff {failure : Failure} :
    (instruction before line opcode found (kind :: kinds)).examine token = .error failure ↔
      (token.isOn line = true ∧ ∃ fault,
        Operand.ofToken (found.length + 1) kind token.kind = .error fault ∧
          failure = .operands line opcode fault) ∨
      (token.isOn line = false ∧
        failure = .operands line opcode (.tooFew opcode.signature.arity found.length)) := by
  rcases hline : token.isOn line with - | -
  · simp [examine, hline, eq_comm]
  · rcases hoperand : Operand.ofToken (found.length + 1) kind token.kind with fault | operand <;>
      simp [examine, hline, hoperand, eq_comm]

end Examine

/-! ### Complete lines

A stage rests on a line if nothing is missing there. What comes next is examined as if it came
behind the header, with other instructions in front. -/

/-- Everything up to and including the line is complete and makes up the instructions. -/
inductive Rests : Stage → Nat → List Instruction → Prop
  /-- The header makes no instruction. -/
  | header (line : Nat) : Rests (header line) line []
  /-- No operand is missing, so the instruction counts. -/
  | instruction (before : List Instruction) (line : Nat) (opcode : Opcode)
      (found : List Operand) :
      Rests (instruction before line opcode found []) line (numbered before opcode found)

/-- Behind a complete line the next token begins an instruction or ends the program. -/
theorem examine_of_rests {stage : Stage} {line : Nat} {instructions : List Instruction}
    (h : stage.Rests line instructions) {token : Token} (htoken : token.isOn line = false) :
    stage.examine token = enter instructions token := by
  cases h with
  | header => simp [examine, htoken]
  | instruction => simp [examine, htoken]

/-! ### All tokens

A list of results is followed until it is used up or a failure stops it. Failures of the scanner
stop it like any others. -/

/-- The stage after more results of the scan, or the first failure among them. -/
def feed (stage : Stage) (results : List (Except Failure Token)) : Except Failure Stage :=
  results.foldlM (fun stage result ↦ result >>= stage.examine) stage

variable {stage stage' : Stage} {token : Token} {failure : Failure}
  {results more : List (Except Failure Token)}

@[simp]
theorem feed_nil : feed stage [] = .ok stage :=
  rfl

@[simp]
theorem feed_error_cons : feed stage (.error failure :: results) = .error failure :=
  rfl

theorem feed_ok_cons_of_ok (h : stage.examine token = .ok stage') :
    feed stage (.ok token :: results) = feed stage' results := by
  show (stage.examine token >>= fun stage ↦ feed stage results) = _
  rw [h]
  rfl

theorem feed_ok_cons_of_error (h : stage.examine token = .error failure) :
    feed stage (.ok token :: results) = .error failure := by
  show (stage.examine token >>= fun stage ↦ feed stage results) = _
  rw [h]
  rfl

theorem feed_append_of_ok (h : feed stage results = .ok stage') :
    feed stage (results ++ more) = feed stage' more := by
  rw [feed, List.foldlM_append, ← feed, h]
  rfl

/-- A failure is not undone by what stands behind it. -/
theorem feed_append_of_error (h : feed stage results = .error failure) :
    feed stage (results ++ more) = .error failure := by
  rw [feed, List.foldlM_append, ← feed, h]
  rfl

/-- One more token behind the others. -/
theorem feed_concat_of_ok (h : feed stage results = .ok stage') :
    feed stage (results ++ [.ok token]) = stage'.examine token := by
  rw [feed_append_of_ok h]
  rcases hexamine : stage'.examine token with failure | stage''
  · rw [feed_ok_cons_of_error hexamine]
  · rw [feed_ok_cons_of_ok hexamine, feed_nil]

/-- A list of results is passed exactly when its first is a token that is passed, and then the
others. -/
theorem feed_cons_eq_ok_iff {result : Except Failure Token} :
    feed stage (result :: more) = .ok stage' ↔
      ∃ token next, result = .ok token ∧ stage.examine token = .ok next ∧
        feed next more = .ok stage' := by
  rcases result with failure | token
  · simp
  rcases hexamine : stage.examine token with failure | next
  · simp [feed_ok_cons_of_error hexamine, hexamine]
  · simp [feed_ok_cons_of_ok hexamine, hexamine]

theorem feed_singleton : feed stage [.ok token] = stage.examine token :=
  feed_concat_of_ok feed_nil

/-- Behind a complete line the end finishes the document. -/
theorem feed_end_of_rests {line last : Nat} {instructions : List Instruction}
    (h : stage.Rests line instructions) :
    stage.feed [.ok ⟨.endOfStream, last⟩] =
      .ok (finished ⟨Document.languageName, instructions⟩) := by
  have hoff : (⟨.endOfStream, last⟩ : Token).isOn line = false := by
    simp [Token.isOn, Token.isEnd]
  exact feed_singleton.trans (examine_of_rests h hoff)

/-- A list is passed exactly when all but its last token are passed, and then that one. -/
theorem feed_concat_eq_ok_iff :
    feed stage (results ++ [.ok token]) = .ok stage' ↔
      ∃ last, feed stage results = .ok last ∧ last.examine token = .ok stage' := by
  rcases hfeed : feed stage results with failure | last
  · simp [feed_append_of_error hfeed]
  · simp [feed_concat_of_ok hfeed]

/-- What has been passed without failure is tokens only. -/
theorem exists_tokens_of_feed_eq_ok (h : feed stage results = .ok stage') :
    ∃ tokens : List Token, results = tokens.map .ok := by
  induction results generalizing stage with
  | nil => exact ⟨[], rfl⟩
  | cons result results ih =>
    obtain ⟨token, next, rfl, -, hmore⟩ := feed_cons_eq_ok_iff.1 h
    obtain ⟨tokens, rfl⟩ := ih hmore
    exact ⟨token :: tokens, rfl⟩

/-! ### The line of a stage

Which line the next token is compared with. The stage itself says so. -/

/-- The stage is in the middle of a program, on the line. -/
inductive StandsOn : Stage → Nat → Prop
  /-- The line of the header, … -/
  | header (line : Nat) : StandsOn (header line) line
  /-- … or of the opcode, whether or not its operands are all there. -/
  | instruction (before : List Instruction) (line : Nat) (opcode : Opcode)
      (found : List Operand) (missing : List OperandKind) :
    StandsOn (instruction before line opcode found missing) line

/-- A stage stands on one line. -/
theorem StandsOn.unique {line line' : Nat} (h : stage.StandsOn line) (h' : stage.StandsOn line') :
    line = line' := by
  cases h <;> cases h' <;> rfl

/-- The stage that a token enters stands on the line of that token, unless it is the end. -/
theorem standsOn_of_enter {before : List Instruction} (h : enter before token = .ok stage)
    (hend : token.isEnd = false) : stage.StandsOn token.line := by
  rcases enter_eq_ok_iff.1 h with ⟨op, -, rfl⟩ | ⟨hend', -⟩
  · exact .instruction _ _ _ _ _
  · exact absurd hend' (by simp [hend])

/-- A token that is accepted in the middle of a program stands on the line of the stage that it
leads to. -/
theorem StandsOn.examine {line : Nat} (hstage : stage.StandsOn line)
    (h : stage.examine token = .ok stage') (hend : token.isEnd = false) :
    stage'.StandsOn token.line := by
  cases hstage with
  | header line => exact standsOn_of_enter (examine_header_eq_ok_iff.1 h).2 hend
  | instruction before line opcode found missing =>
    rcases missing with - | ⟨kind, kinds⟩
    · exact standsOn_of_enter (examine_complete_eq_ok_iff.1 h).2 hend
    · obtain ⟨hon, operand, -, rfl⟩ := examine_operand_eq_ok_iff.1 h
      rw [(Token.isOn_eq_true_iff.1 hon).1]
      exact .instruction _ _ _ _ _

/-- Before the end, the last token stands on the line of the stage. -/
theorem standsOn_of_feed {tokens : List Token}
    (h : start.feed ((tokens ++ [token]).map .ok) = .ok stage)
    (hend : ∀ other ∈ tokens ++ [token], other.isEnd = false) : stage.StandsOn token.line := by
  induction tokens using List.reverseRecOn generalizing token stage with
  | nil =>
    -- the first token can only be the header
    obtain ⟨_, next, heq, hexamine, hnext⟩ := feed_cons_eq_ok_iff.1 h
    cases heq
    cases hnext
    obtain ⟨-, rfl⟩ := examine_start_eq_ok_iff.1 hexamine
    exact .header token.line
  | append_singleton tokens last ih =>
    rw [List.map_append, List.map_singleton, feed_concat_eq_ok_iff] at h
    obtain ⟨next, hnext, hexamine⟩ := h
    exact (ih hnext fun other hother ↦ hend other (List.mem_append_left _ hother)).examine hexamine
      (hend token (by simp))

end Stage

end IppCode
