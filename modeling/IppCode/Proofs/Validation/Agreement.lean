import IppCode.Proofs.Validation.Simulation
import Mathlib.Data.List.Forall2
import Mathlib.Logic.Relator

/-!
# Runs that agree

When the results of two scans agree one by one, so do the outcomes of the two runs
(`agree_validate`). Two results agree when they are the same but for the lines that they stand on;
which line of the one source goes with which of the other is a relation that is given. All that it
has to be is one-to-one: whether a token stands on the line of an instruction is the only thing that
is ever asked about lines. The end of the stream stands on no line, so its line is free.

One of the runs may have complete instructions behind it that the other has not (`Stage.Agrees`). It
numbers its own on from these, and everything else is as in the other run.

What one token does is `Stage.Agrees.examine`, and what all of them do is `Stage.Agrees.feed`.

The relation is a parameter because it is not the same one twice. In a source that was laid out anew
a line goes with the one that has the same content, in a text behind another one with the line so
much further down, and where only the case of letters was changed each line goes with itself. None
of these has to be known here, and none of the places that use this has to look at a stage.
-/

namespace IppCode

/-! ### Outcomes

What it means for two outcomes to agree, with the relation of the lines as a parameter. Whatever is
quoted has to be the same on both sides. -/

/-- The failures are of one kind, with the same texts, and their lines, if any, are related. -/
inductive Failure.Agrees (related : Nat → Nat → Prop) : Failure → Failure → Prop
  /-- The fault is the same in every text that it quotes. -/
  | lexical {line line' : Nat} (fault : LexicalFault) (hline : related line line') :
    Agrees related (.lexical line fault) (.lexical line' fault)
  /-- An empty program is empty wherever its lines are. -/
  | lineless (fault : HeaderFault) : Agrees related (.header none fault) (.header none fault)
  | header {line line' : Nat} (fault : HeaderFault) (hline : related line line') :
    Agrees related (.header (some line) fault) (.header (some line') fault)
  /-- What was found is quoted alike. -/
  | badOpcode {line line' : Nat} (found : String) (hline : related line line') :
    Agrees related (.badOpcode line found) (.badOpcode line' found)
  /-- Opcode and fault are the same, only the line may be another. -/
  | operands {line line' : Nat} (opcode : Opcode) (fault : OperandFault)
      (hline : related line line') :
    Agrees related (.operands line opcode fault) (.operands line' opcode fault)

/-- Both succeed, and then with what the values of the one are in the other, or both fail, and then
with failures that agree. -/
inductive Agree {α β : Type} (related : Nat → Nat → Prop) (values : α → β → Prop) :
    Except Failure α → Except Failure β → Prop
  /-- Both succeed, with related values. -/
  | ok {a : α} {b : β} (hvalue : values a b) : Agree related values (.ok a) (.ok b)
  /-- Both fail, with failures that agree. -/
  | error {failure failure' : Failure} (hfailure : failure.Agrees related failure') :
    Agree related values (.error failure) (.error failure')

/-- The one has a line exactly where the other has, and then a related one. -/
theorem Failure.Agrees.exists_line {related : Nat → Nat → Prop} {failure failure' : Failure}
    (h : failure.Agrees related failure') {line : Nat} (hline : failure.line? = some line) :
    ∃ line', failure'.line? = some line' ∧ related line line' := by
  cases h with
  | lineless => cases hline
  | lexical _ hrelated | header _ hrelated | badOpcode _ hrelated | operands _ _ hrelated =>
    obtain rfl := Option.some.inj hline
    exact ⟨_, rfl, hrelated⟩

section Outcome

variable {α β : Type} {related : Nat → Nat → Prop} {values : α → β → Prop}

/-- If the one succeeds, so does the other. -/
theorem Agree.exists_ok {a : α} {y : Except Failure β} (h : Agree related values (.ok a) y) :
    ∃ b, y = .ok b ∧ values a b := by
  cases h with
  | ok hvalue => exact ⟨_, rfl, hvalue⟩

theorem Agree.exists_error {failure : Failure} {y : Except Failure β}
    (h : Agree related values (.error failure) y) :
    ∃ failure', y = .error failure' ∧ failure.Agrees related failure' := by
  cases h with
  | error hfailure => exact ⟨_, rfl, hfailure⟩

/-- What goes on from values that are related goes on in agreement. -/
theorem Agree.bind {γ δ : Type} {values' : γ → δ → Prop} {x : Except Failure α}
    {y : Except Failure β} {f : α → Except Failure γ} {g : β → Except Failure δ}
    (h : Agree related values x y)
    (hvalues : ∀ a b, values a b → Agree related values' (f a) (g b)) :
    Agree related values' (x >>= f) (y >>= g) := by
  cases h with
  | ok hvalue => exact hvalues _ _ hvalue
  | error hfailure => exact .error hfailure

end Outcome

/-- The tokens are of one kind, and their lines are related if they stand on any. -/
structure Token.Agrees (related : Nat → Nat → Prop) (token token' : Token) : Prop where
  /-- They are taken for the same. -/
  kind : token.kind = token'.kind
  /-- Nothing is asked of the line of the end. -/
  line : token.isEnd = false → related token.line token'.line

/-! ### Instructions behind others

A list of instructions, numbered on from that of another. Nothing but the numbers is changed. -/

/-- The later instructions behind the earlier ones, numbered on from them. -/
def joined (earlier later : List Instruction) : List Instruction :=
  earlier ++ later.map fun instruction ↦
    { instruction with order := instruction.order + earlier.length }

/-- The document with the earlier instructions in front. -/
def Document.behind (earlier : List Instruction) (document : Document) : Document :=
  ⟨document.language, joined earlier document.instructions⟩

@[simp]
theorem joined_nil_left (later : List Instruction) : joined [] later = later :=
  List.map_id' later

@[simp]
theorem joined_nil_right (earlier : List Instruction) : joined earlier [] = earlier :=
  List.append_nil earlier

@[simp]
theorem Document.behind_nil (document : Document) : document.behind [] = document := by
  rw [behind, joined_nil_left]

theorem length_joined (earlier later : List Instruction) :
    (joined earlier later).length = earlier.length + later.length := by
  rw [joined, List.length_append, List.length_map]

/-- One more instruction gets the next number, whether or not there are earlier ones. -/
theorem joined_numbered (earlier later : List Instruction) (opcode : Opcode)
    (operands : List Operand) :
    joined earlier (Stage.numbered later opcode operands) =
      Stage.numbered (joined earlier later) opcode operands := by
  rw [Stage.numbered, Stage.numbered, length_joined, joined, joined, List.map_append,
    List.append_assoc, List.map_singleton]
  show _ = earlier ++
    (_ ++ [Instruction.ofOperands (earlier.length + later.length + 1) opcode operands])
  congr 4
  -- the next number counts the earlier instructions as well
  show later.length + 1 + earlier.length = _
  omega

/-! ### Stages

One token is examined in both runs, and the stages agree afterwards or the failures do. There is one
case for each stage, and in each of them the line is compared in the same way. -/

/-- The stages are the same but for their lines, which are related, and for the earlier instructions
that the second has in front of those of the first. -/
inductive Stage.Agrees (related : Nat → Nat → Prop) (earlier : List Instruction) :
    Stage → Stage → Prop
  /-- Nothing has been scanned, so there are no earlier instructions. -/
  | start (hearlier : earlier = []) : Agrees related earlier .start .start
  /-- Nor are there any on the line of the header. -/
  | header {line line' : Nat} (hearlier : earlier = []) (hline : related line line') :
    Agrees related earlier (.header line) (.header line')
  /-- The second run has completed the earlier instructions before those of the first, and is at the
  same place in the same instruction. -/
  | instruction {line line' : Nat} (before : List Instruction) (opcode : Opcode)
      (found : List Operand) (missing : List OperandKind) (hline : related line line') :
    Agrees related earlier (.instruction before line opcode found missing)
      (.instruction (joined earlier before) line' opcode found missing)
  /-- The documents differ by the earlier instructions and their numbers. -/
  | finished (document : Document) :
    Agrees related earlier (.finished document) (.finished (document.behind earlier))

section Step

variable {related : Nat → Nat → Prop} {earlier : List Instruction} {token token' : Token}
  {line line' : Nat}

theorem Token.Agrees.isEnd_eq (h : token.Agrees related token') :
    token.isEnd = token'.isEnd := by
  rw [Token.isEnd, Token.isEnd, h.kind]

/-- Tokens that agree are both on lines that are related, or both off them. -/
theorem Token.Agrees.isOn_eq (h : token.Agrees related token') (hrelated : Relator.BiUnique related)
    (hline : related line line') : token.isOn line = token'.isOn line' := by
  rw [Bool.eq_iff_iff, isOn_eq_true_iff, isOn_eq_true_iff, ← h.isEnd_eq]
  refine and_congr_left fun hend ↦ ?_
  constructor
  · rintro rfl
    exact hrelated.2 (h.line hend) hline
  · rintro rfl
    exact hrelated.1 (h.line hend) hline

/-- Behind complete instructions tokens that agree are both accepted or both refused. -/
theorem Token.Agrees.enter (h : token.Agrees related token') (before : List Instruction) :
    Agree related (Stage.Agrees related earlier) (Stage.enter before token)
      (Stage.enter (joined earlier before) token') := by
  obtain ⟨kind, line⟩ := token
  obtain ⟨kind', line'⟩ := token'
  obtain rfl : kind = kind' := h.kind
  rcases kind with - | opcode | _ | _ | _ | _ | -
  case opcode => exact .ok (.instruction before opcode [] opcode.operandKinds (h.line rfl))
  case endOfStream => exact .ok (.finished ⟨Document.languageName, before⟩)
  all_goals exact .error (.badOpcode _ (h.line rfl))

/-- **One token keeps stages in agreement**, or is refused in both with failures that agree. -/
theorem Stage.Agrees.examine {stage stage' : Stage} (hstage : stage.Agrees related earlier stage')
    (hrelated : Relator.BiUnique related) (htoken : token.Agrees related token') :
    Agree related (Stage.Agrees related earlier) (stage.examine token) (stage'.examine token') := by
  cases hstage with
  | start hearlier =>
    obtain ⟨kind, line⟩ := token
    obtain ⟨kind', line'⟩ := token'
    obtain rfl : kind = kind' := htoken.kind
    rcases kind with - | opcode | _ | _ | _ | _ | -
    case header => exact .ok (.header hearlier (htoken.line rfl))
    case endOfStream => exact .error (.lineless _)
    all_goals exact .error (.header _ (htoken.line rfl))
  | @header line line' hearlier hline =>
    subst hearlier
    have hon := htoken.isOn_eq hrelated hline
    rw [Stage.examine, Stage.examine, ← hon, ← htoken.kind]
    by_cases hline' : token.isOn line = true
    · rw [if_pos hline', if_pos hline']
      exact .error (.header _ hline)
    · rw [if_neg hline', if_neg hline']
      exact htoken.enter []
  | @instruction line line' before opcode found missing hline =>
    -- all that is asked about lines has one answer in both
    have hon := htoken.isOn_eq hrelated hline
    rcases missing with - | ⟨kind, missing⟩
    · rw [Stage.examine, Stage.examine, ← hon, ← htoken.kind, ← joined_numbered]
      by_cases hline' : token.isOn line = true
      · rw [if_pos hline', if_pos hline']
        exact .error (.operands _ _ hline)
      · rw [if_neg hline', if_neg hline']
        exact htoken.enter _
    · rw [Stage.examine, Stage.examine, ← hon, ← htoken.kind]
      by_cases hline' : token.isOn line = true
      · rw [if_pos hline', if_pos hline']
        rcases Operand.ofToken (found.length + 1) kind token.kind with fault | operand
        · exact .error (.operands _ _ hline)
        · exact .ok (.instruction before opcode (found ++ [operand]) missing hline)
      · rw [if_neg hline', if_neg hline']
        exact .error (.operands _ _ hline)
  | finished document => exact .ok (.finished document)

end Step

/-! ### Runs

By induction on the results. A run takes the beginning of a scan only, but its outcome is that of
going through all of the scan, so the scans are compared as a whole. -/

theorem Stage.feed_ok_cons (stage : Stage) (token : Token)
    (results : List (Except Failure Token)) :
    stage.feed (.ok token :: results) = stage.examine token >>= fun next ↦ next.feed results :=
  rfl

/-- **All results keep stages in agreement**, up to the first that is refused in both. -/
theorem Stage.Agrees.feed {related : Nat → Nat → Prop} {earlier : List Instruction}
    {stage stage' : Stage} {results results' : List (Except Failure Token)}
    (hstage : stage.Agrees related earlier stage') (hrelated : Relator.BiUnique related)
    (hresults : List.Forall₂ (Agree related (Token.Agrees related)) results results') :
    Agree related (Stage.Agrees related earlier) (stage.feed results) (stage'.feed results') := by
  induction hresults generalizing stage stage' with
  | nil => exact .ok hstage
  | cons hresult _ ih =>
    cases hresult with
    | error hfailure => exact .error hfailure
    | ok htoken =>
      rw [feed_ok_cons, feed_ok_cons]
      exact (hstage.examine hrelated htoken).bind fun next next' hnext ↦ ih hnext

/-- All results of a scan lead to the document, or to the failure, that the source is validated
with. -/
theorem feed_scan (source : String) :
    Stage.start.feed (scan source) = (validate source).map Stage.finished := by
  rcases hresult : validate source with failure | document
  · exact Validator.run_result_eq_error_iff.1 hresult
  · exact validate_eq_ok_iff_feed.1 hresult

/-- What a source is scanned to is all that matters. -/
theorem validate_congr {source other : String} (h : scan source = scan other) :
    validate source = validate other := by
  rcases hresult : validate other with failure | document
  · have hfeed : Stage.start.feed (scan other) = .error failure :=
      Validator.run_result_eq_error_iff.1 hresult
    exact Validator.run_result_eq_error_iff.2 (h ▸ hfeed)
  · exact validate_eq_ok_iff_feed.2 (h ▸ validate_eq_ok_iff_feed.1 hresult)

/-- What the results of a scan agree with has an outcome that agrees with that of the source. -/
theorem agree_of_feed {related : Nat → Nat → Prop} {earlier : List Instruction}
    {outcome : Except Failure Stage} {source : String}
    (h : Agree related (Stage.Agrees related earlier) outcome (Stage.start.feed (scan source))) :
    Agree related (fun stage document ↦ ∃ later, stage = .finished later ∧
      document = later.behind earlier) outcome (validate source) := by
  rw [feed_scan] at h
  generalize validate source = result at h ⊢
  rcases result with failure | document
  · cases h with
    | error hfailure => exact .error hfailure
  · cases h with
    | ok hstages =>
      cases hstages with
      | finished later => exact .ok ⟨later, rfl, rfl⟩

/-- **Sources whose scans agree have outcomes that agree.** -/
theorem agree_validate {related : Nat → Nat → Prop} {source other : String}
    (hrelated : Relator.BiUnique related)
    (hresults : List.Forall₂ (Agree related (Token.Agrees related)) (scan source) (scan other)) :
    Agree related Eq (validate source) (validate other) := by
  have hfeed := agree_of_feed ((Stage.Agrees.start rfl).feed hrelated hresults)
  rw [feed_scan] at hfeed
  generalize validate source = result, validate other = result' at hfeed ⊢
  rcases result with failure | document
  · cases hfeed with
    | error hfailure => exact .error hfailure
  · cases hfeed with
    | ok hdocument =>
      obtain ⟨later, hlater, rfl⟩ := hdocument
      obtain rfl := Stage.finished.inj hlater
      exact .ok (Document.behind_nil _).symm

end IppCode
