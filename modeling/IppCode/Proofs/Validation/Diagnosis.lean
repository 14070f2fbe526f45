import IppCode.Proofs.Validation.Progress
import IppCode.Proofs.Validation.Simulation

/-!
# What a failing run reports

The failure of a run is determined by what the run has pulled, and `Diagnosis` says how: by the last
result, and by how far the tokens before it have come.

That a failing run is diagnosed so follows from the stage that the tokens before the last result
have led to, since they fit it (`Reached.diagnosis`). That there is no other diagnosis follows
because what is diagnosed leads to the failure it is diagnosed with (`Diagnosis.feed`).

The clauses name lines, opcodes, positions and texts, and the message is spelled out in each of
them, so that nothing of a failure is left to be computed. They are about tokens and do not mention
a stage. In the clause for missing operands, for instance, `Open` says that all operands so far fit
and are fewer than the opcode calls for; which token ends the line does not matter, and it is not
reported.

A failure of the scanner is passed on wherever it comes. It may come where the validator would have
refused any token, and then the failure of the scanner is the one that is reported: the last result
decides between the two, and there is no token to be examined.
-/

namespace IppCode

/-- The failure of a run that has pulled the results, and the message of the failure. -/
inductive Diagnosis : List (Except Failure Token) → Failure → String → Prop
  /-- A failure of the scanner is passed on. -/
  | lexical (tokens : List Token) (line : Nat) (fault : LexicalFault) :
    Diagnosis (tokens.map .ok ++ [.error (.lexical line fault)]) (.lexical line fault)
      s!"line {line}: lexical error: {fault.message}"
  /-- There is no word at all. -/
  | emptyProgram (line : Nat) :
    Diagnosis [.ok ⟨.endOfStream, line⟩] (.header none .emptyProgram)
      ("bad header: " ++ s!"the program is empty; it should start with {headerText}")
  /-- The first word is not the header. -/
  | missingHeader (token : Token) (hend : token.isEnd = false) (hkind : token.kind ≠ .header) :
    Diagnosis [.ok token] (.header (some token.line) (.missing token.kind.text))
      (s!"line {token.line}: bad header: " ++
        s!"expected {headerText} but found '{token.kind.text}'")
  /-- A second word stands on the line of the header. -/
  | headerNotAlone (next : Token) (hend : next.isEnd = false) :
    Diagnosis [.ok ⟨.header, next.line⟩, .ok next]
      (.header (some next.line) (.notAlone next.kind.text))
      (s!"line {next.line}: bad header: " ++ s!"unexpected '{next.kind.text}' after {headerText}")
  /-- A line behind complete ones begins with something else than an opcode. -/
  | badOpcode {tokens : List Token} {line : Nat} (token : Token) (hcomplete : Complete tokens line)
      (hlater : line < token.line) (hend : token.isEnd = false)
      (hkind : ∀ op, token.kind ≠ .opcode op) :
    Diagnosis (tokens.map .ok ++ [.ok token]) (.badOpcode token.line token.kind.text)
      s!"line {token.line}: expected an opcode but found '{token.kind.text}'"
  /-- The line of an instruction ends before it has all its operands. -/
  | tooFew {tokens : List Token} {line count : Nat} {op : Opcode} (token : Token)
      (hopen : Open tokens line op count) (hcount : count < op.signature.arity)
      (hoff : token.isEnd = true ∨ token.line ≠ line) :
    Diagnosis (tokens.map .ok ++ [.ok token])
      (.operands line op (.tooFew op.signature.arity count))
      (s!"line {line}: in {op.mnemonic} instruction: " ++
        s!"expected {op.signature.arity} operands but found only {count}")
  /-- What stands in the place of the next operand is none. -/
  | operand {tokens : List Token} {line count : Nat} {op : Opcode} {kind : OperandKind}
      {fault : OperandFault} {text : String} (token : Token)
      (hopen : Open tokens line op count) (hkind : op.operandKinds[count]? = some kind)
      (hend : token.isEnd = false) (hline : token.line = line)
      (hcomplaint : Complaint (count + 1) kind token.kind fault text) :
    Diagnosis (tokens.map .ok ++ [.ok token]) (.operands line op fault)
      (s!"line {line}: in {op.mnemonic} instruction: " ++ text)
  /-- Something stands behind the last operand. -/
  | tooMany {tokens : List Token} {line : Nat} {op : Opcode} (next : Token)
      (hopen : Open tokens line op op.signature.arity) (hend : next.isEnd = false)
      (hline : next.line = line) :
    Diagnosis (tokens.map .ok ++ [.ok next])
      (.operands line op (.tooMany op.signature.arity next.kind.text))
      (s!"line {line}: in {op.mnemonic} instruction: " ++
        s!"expected {op.signature.arity} operands but found more, starting with '{next.kind.text}'")

/-- The message of a diagnosis is that of its failure. -/
theorem Diagnosis.message_eq {results : List (Except Failure Token)} {failure : Failure}
    {message : String} (h : Diagnosis results failure message) : message = failure.message := by
  cases h with
  | lexical => rfl
  | emptyProgram => rfl
  | missingHeader => rfl
  | headerNotAlone => rfl
  | badOpcode => rfl
  | tooFew => rfl
  | operand token hopen hkind hend hline hcomplaint =>
    rw [(complaint_iff.1 hcomplaint).2]
    rfl
  | tooMany => rfl

/-- What is diagnosed leads to the failure that it is diagnosed with, if it does not end in a
failure of the scanner. -/
theorem Diagnosis.feed {results : List (Except Failure Token)} {failure : Failure}
    {message : String} (h : Diagnosis results failure message) :
    (∃ tokens : List Token, results = tokens.map .ok ++ [.error failure]) ∨
      Stage.start.feed results = .error failure := by
  have hopened : ∀ {tokens : List Token} {line count : Nat} {opcode : Opcode} {token : Token},
      Open tokens line opcode count →
      (∀ before found, found.length = count →
        (Stage.instruction before line opcode found (opcode.operandKinds.drop count)).examine
          token = .error failure) →
      Stage.start.feed (tokens.map .ok ++ [.ok token]) = .error failure := by
    intro tokens line count opcode token hopen hexamine
    obtain ⟨before, found, hlength, hfeed⟩ := feed_of_open hopen
    rw [Stage.feed_concat_of_ok hfeed, hexamine before found hlength]
  -- in every clause the tokens before the last lead to a stage, and the stage refuses the last
  cases h with
  | lexical tokens line fault => exact .inl ⟨tokens, rfl⟩
  | emptyProgram line => exact .inr rfl
  | missingHeader token hend hkind =>
    exact .inr (Stage.feed_singleton.trans
      (Stage.examine_start_eq_error_iff.2 (.inr ⟨hend, hkind, rfl⟩)))
  | headerNotAlone next hend =>
    refine .inr ?_
    rw [Stage.feed_ok_cons_of_ok (Stage.examine_start_eq_ok_iff.2 ⟨rfl, rfl⟩), Stage.feed_singleton]
    exact Stage.examine_header_eq_error_iff.2 (.inl ⟨Token.isOn_eq_true_iff.2 ⟨rfl, hend⟩, rfl⟩)
  | badOpcode token hcomplete hlater hend hkind =>
    obtain ⟨stage, instructions, hfeed, hrests⟩ := feed_of_complete hcomplete
    have hoff := Token.isOn_eq_false_iff.2 (.inr (Nat.ne_of_gt hlater))
    refine .inr ?_
    rw [Stage.feed_concat_of_ok hfeed, Stage.examine_of_rests hrests hoff]
    exact Stage.enter_eq_error_iff.2 ⟨hend, hkind, rfl⟩
  | @tooFew _ _ _ opcode token hopen hcount hoff =>
    refine .inr (hopened hopen fun before found hlength ↦ ?_)
    have hlt : _ < opcode.operandKinds.length := hcount
    rw [List.drop_eq_getElem_cons hlt, Stage.examine_operand_eq_error_iff, hlength]
    exact .inr ⟨Token.isOn_eq_false_iff.2 hoff, rfl⟩
  | operand token hopen hkind hend hline hcomplaint =>
    refine .inr (hopened hopen fun before found hlength ↦ ?_)
    obtain ⟨hcount, rfl⟩ := List.getElem?_eq_some_iff.1 hkind
    rw [List.drop_eq_getElem_cons hcount, Stage.examine_operand_eq_error_iff, hlength]
    exact .inl ⟨Token.isOn_eq_true_iff.2 ⟨hline, hend⟩, _, (complaint_iff.1 hcomplaint).1, rfl⟩
  | @tooMany _ _ opcode next hopen hend hline =>
    refine .inr (hopened hopen fun before found hlength ↦ ?_)
    have hdrop : opcode.operandKinds.drop opcode.signature.arity = [] := List.drop_length
    rw [hdrop, Stage.examine_complete_eq_error_iff]
    exact .inl ⟨Token.isOn_eq_true_iff.2 ⟨hline, hend⟩, rfl⟩

/-- What is refused behind complete tokens, on a later line, is a bad opcode. -/
theorem Complete.diagnosis {tokens : List Token} {line : Nat} {token : Token} {failure : Failure}
    {before : List Instruction} (h : Complete tokens line) (hoff : token.isOn line = false)
    (henter : Stage.enter before token = .error failure) (hline : line ≤ token.line) :
    Diagnosis (tokens.map .ok ++ [.ok token]) failure failure.message := by
  obtain ⟨hend, hkind, rfl⟩ := Stage.enter_eq_error_iff.1 henter
  exact .badOpcode token h (Token.line_lt_of_isOn_eq_false hoff hend hline) hend hkind

/-- What refuses a token in a stage that the tokens before it fit is diagnosed. -/
theorem Reached.diagnosis {tokens : List Token} {stage : Stage} {token : Token}
    {failure : Failure} (h : Reached tokens stage)
    (hexamine : stage.examine token = .error failure)
    (hline : ∀ other ∈ tokens, other.line ≤ token.line) :
    Diagnosis (tokens.map .ok ++ [.ok token]) failure failure.message := by
  -- the ways to be refused in a stage are listed beside `examine`; each of them is a clause
  cases h with
  | start =>
    rcases Stage.examine_start_eq_error_iff.1 hexamine with ⟨hend, rfl⟩ | ⟨hend, hkind, rfl⟩
    · obtain ⟨_, line⟩ := token
      obtain rfl := of_decide_eq_true hend
      exact .emptyProgram line
    · exact .missingHeader token hend hkind
  | header line =>
    rcases Stage.examine_header_eq_error_iff.1 hexamine with ⟨hon, rfl⟩ | ⟨hoff, henter⟩
    · obtain ⟨rfl, hend⟩ := Token.isOn_eq_true_iff.1 hon
      exact .headerNotAlone token hend
    · exact (Complete.header line).diagnosis hoff henter (hline _ List.mem_cons_self)
  | @instruction tokens args line line' opcode done missing found before hbefore hlater hargs hkinds
      hfound =>
    have hlength : done.length = args.length := hargs.length_eq
    have htake : opcode.operandKinds.take args.length = done := by
      rw [hkinds, List.take_left' hlength]
    have hopen : Open (tokens ++ ⟨.opcode opcode, line'⟩ :: args) line' opcode args.length :=
      .mk opcode hbefore hlater (htake.symm ▸ hargs)
    rcases missing with - | ⟨kind, missing⟩
    · rw [List.append_nil] at hkinds
      rcases Stage.examine_complete_eq_error_iff.1 hexamine with ⟨hon, rfl⟩ | ⟨hoff, henter⟩
      · obtain ⟨hon, hend⟩ := Token.isOn_eq_true_iff.1 hon
        have harity : args.length = opcode.signature.arity := by
          rw [← hlength, ← hkinds]
          rfl
        exact .tooMany token (harity ▸ hopen) hend hon
      · have hcomplete : Complete (tokens ++ ⟨.opcode opcode, line'⟩ :: args) line' :=
          .instruction opcode hbefore hlater (hkinds ▸ hargs)
        exact hcomplete.diagnosis hoff henter (hline ⟨.opcode opcode, line'⟩ (by simp))
    · have hcount : opcode.operandKinds[args.length]? = some kind := by
        rw [hkinds, List.getElem?_append_right (Nat.le_of_eq hlength), hlength, Nat.sub_self]
        rfl
      rcases Stage.examine_operand_eq_error_iff.1 hexamine with
        ⟨hon, fault, hfault, rfl⟩ | ⟨hoff, rfl⟩
      · obtain ⟨hon, hend⟩ := Token.isOn_eq_true_iff.1 hon
        rw [hfound, hlength] at hfault
        exact .operand token hopen hcount hend hon (complaint_iff.2 ⟨hfault, rfl⟩)
      · rw [hfound, hlength]
        exact .tooFew token hopen (List.getElem?_eq_some_iff.1 hcount).1
          (Token.isOn_eq_false_iff.1 hoff)

namespace Validator

/-- What a failing run has pulled is diagnosed. -/
theorem diagnosis_of_error {source : String} {failure : Failure}
    (h : (run source).result = .error failure) :
    Diagnosis (run source).pulled failure failure.message := by
  obtain ⟨before, last, stage, hpulled, hbefore, hlast, rest, hscan⟩ := run_outcome_of_error h
  obtain ⟨tokens, rfl⟩ := Stage.exists_tokens_of_feed_eq_ok hbefore
  rw [hpulled] at hscan ⊢
  rcases last with failure' | token
  · have hmem : .error failure' ∈ scan source := by
      rw [← hscan]
      simp
    obtain ⟨line, fault, rfl⟩ := exists_lexical_of_error_mem_scan hmem
    cases hlast
    exact .lexical tokens line fault
  · have hprefix : (tokens ++ [token]).map .ok <+: scan source :=
      ⟨rest, by rw [← hscan, List.map_append, List.map_singleton]⟩
    obtain ⟨hlines, -, hline⟩ :=
      List.pairwise_append.1 (pairwise_line_of_prefix_scan hprefix)
    rw [List.append_assoc] at hscan
    have hend : ∀ other ∈ tokens, other.isEnd = false := fun other hother ↦
      isEnd_of_scan_eq_append hscan.symm (by simp) (List.mem_map_of_mem hother)
    rw [Stage.feed_singleton] at hlast
    exact (reached_of_feed hbefore hend hlines).diagnosis hlast fun other hother ↦
      hline other hother token List.mem_cons_self

/-- **The failure of a run is the diagnosis of what it has pulled**, and so is its message. What it
has pulled are the first results of the scan. There is one kind of diagnosis for each way in which a
run can fail, and each names the line and quotes what it is about. -/
theorem exact_diagnosis (source : String) (failure : Failure) (message : String) :
    (run source).pulled <+: scan source ∧
      ((run source).result = .error failure ∧ failure.message = message ↔
        Diagnosis (run source).pulled failure message) := by
  refine ⟨pulled_prefix_scan source, ?_, fun h ↦ ⟨?_, h.message_eq.symm⟩⟩
  · rintro ⟨h, rfl⟩
    exact diagnosis_of_error h
  · -- a run has one result, so it is enough that any other is diagnosed otherwise
    rcases hresult : (run source).result with failure' | document
    · obtain ⟨before, last, stage, hpulled, hbefore, hlast, -⟩ := run_outcome_of_error hresult
      rcases h.feed with ⟨tokens, htokens⟩ | hfeed
      · rw [hpulled] at htokens
        obtain rfl := List.singleton_inj.1 (List.append_inj' htokens rfl).2
        cases hlast
        rfl
      · rw [feed_pulled_of_error hresult] at hfeed
        cases hfeed
        rfl
    · obtain ⟨hpulled, hscan⟩ := run_outcome_of_ok hresult
      rw [hpulled] at h
      rcases h.feed with ⟨tokens, htokens⟩ | hfeed
      · obtain ⟨others, hothers⟩ := Stage.exists_tokens_of_feed_eq_ok hscan
        rw [htokens] at hothers
        have hmem : Except.error failure ∈ others.map Except.ok := by
          rw [← hothers]
          simp
        simp at hmem
      · rw [hscan] at hfeed
        cases hfeed

end Validator

end IppCode
