import IppCode.Proofs.Scan.Results
import IppCode.Proofs.Validation.Stage

/-!
# Runs of the validator and stages

A run of the validator pulls the results of the scan one after the other, holds one of them over now
and then, and comes to the verdict of `Stage.feed` on them: `run_outcome` says so for every source.
A stage knows nothing of a scanner, of a token that is held over, or of a record, so from here on a
statement about runs is one about lists of results.

The proof goes through what is true of the state between two pulls. `Examined` holds when all that
was pulled has been examined, `Awaiting` when the last token pulled has yet to be; the token held
over between two instructions is one that waits. Every part of a run takes one of the two to the
other or ends as `Refused` says (`pull_yields`, `expectOperands_yields`, `expectLineEnd_yields`,
`expectInstruction_yields`, `expectHeader_yields`), so every round keeps the state in line with its
phase (`advance_yields`), and so does a whole run.

All three say what is ahead of the scanner: the scan is what was pulled together with what the
scanner would still give. That is why a run cannot lose or repeat a result, and why the prefix of
the scan that a rejected run has pulled ends with the result that it was rejected for.

Rounds do not recurse on anything that can be seen, and runs end because there is less to do behind
every round (`Phase.todo`). `runFrom_induction` is the one place that speaks of this measure. What
is to be shown of all runs is shown by it from the three ways in which a run can go on.
-/

namespace IppCode

/-! ### Parts of a run

What can be said of a part of a run: what is true behind it when it succeeds, and when it fails.
Both are stated together, since a failure leaves a state as well, with the record in it. -/

/-- Started in `v`, the part of a run ends as `post` says if it succeeds, and as `fail` says if it
does not. -/
def Validation.Yields {α : Type} (x : Validation α) (v : Validator)
    (post : α → Validator → Prop) (fail : Failure → Validator → Prop) : Prop :=
  match x v with
  | .ok a w => post a w
  | .error failure w => fail failure w

namespace Validation

variable {α β : Type} {x : Validation α} {f : α → Validation β} {v : Validator}
  {post weaker : α → Validator → Prop} {post' : β → Validator → Prop}
  {fail weakerFail : Failure → Validator → Prop}

theorem Yields.imp (h : x.Yields v post fail) (hpost : ∀ a w, post a w → weaker a w)
    (hfail : ∀ failure w, fail failure w → weakerFail failure w) :
    x.Yields v weaker weakerFail := by
  rw [Yields] at h ⊢
  rcases hx : x v with ⟨a, w⟩ | ⟨failure, w⟩
  · rw [hx] at h
    exact hpost a w h
  · rw [hx] at h
    exact hfail failure w h

/-- Two parts of a run one after the other: what the first leaves is what the second starts from,
and a failure of the first is one of both. -/
theorem Yields.bind (h : x.Yields v post fail)
    (hf : ∀ a w, post a w → (f a).Yields w post' fail) : (x >>= f).Yields v post' fail := by
  show match EStateM.bind x f v with
    | .ok b w => post' b w
    | .error failure w => fail failure w
  rw [Yields] at h
  rw [EStateM.bind]
  rcases hx : x v with ⟨a, w⟩ | ⟨failure, w⟩
  · rw [hx] at h
    exact hf a w h
  · rw [hx] at h
    exact h

/-- What is true of the state stays true, whether the part of a run succeeds or fails. -/
def Keeps (x : Validation α) (p : Validator → Prop) : Prop :=
  ∀ v, p v → x.Yields v (fun _ w ↦ p w) fun _ w ↦ p w

variable {p : Validator → Prop}

/-- A run whose parts keep something keeps it. The second part may depend on what the first gives,
and has to keep it whatever that is. -/
theorem Keeps.bind (h : x.Keeps p) (hf : ∀ a, (f a).Keeps p) : (x >>= f).Keeps p :=
  fun v hv ↦ (h v hv).bind fun a w hw ↦ hf a w hw

theorem Keeps.pure (a : α) : (pure a : Validation α).Keeps p :=
  fun _ hv ↦ hv

theorem Keeps.throw (failure : Failure) : (throw failure : Validation α).Keeps p :=
  fun _ hv ↦ hv

end Validation

namespace Validator

/-! ### Between two pulls

The two sorts of states in which a run can be when it is not inside the scanner, and what a run that
is refused has left behind. -/

/-- All that was pulled has been examined, up to the given stage, and the rest of the scan is
still ahead. -/
structure Examined (source : String) (stage : Stage) (v : Validator) : Prop where
  /-- What was pulled leads from the start to the stage. -/
  feed : Stage.start.feed v.pulled.toList = .ok stage
  /-- What was pulled and what lies ahead is the scan. -/
  ahead : scan source = v.pulled.toList ++ v.scanner.results
  /-- The end has not been pulled. -/
  unfinished : v.scanner.finished = false

/-- The token was pulled last and has not been examined; all before it led to the given stage. -/
structure Awaiting (source : String) (stage : Stage) (token : Token) (v : Validator) : Prop where
  /-- What was pulled before the token leads from the start to the stage. -/
  feed : ∃ before, v.pulled.toList = before ++ [.ok token] ∧ Stage.start.feed before = .ok stage
  /-- What was pulled and what lies ahead is the scan. -/
  ahead : scan source = v.pulled.toList ++ v.scanner.results
  /-- The scanner is finished exactly if the token is the end. -/
  finished : v.scanner.finished = token.isEnd

/-- The last result pulled is the first that leads to a failure. -/
def Refused (source : String) (failure : Failure) (v : Validator) : Prop :=
  ∃ before last stage, v.pulled.toList = before ++ [last] ∧
    Stage.start.feed before = .ok stage ∧ stage.feed [last] = .error failure ∧
    v.pulled.toList <+: scan source

variable {source : String} {stage stage' : Stage} {token : Token} {v : Validator}

/-- A token that is accepted and is not the end leaves the rest of the scan to be examined. -/
theorem Awaiting.examined (h : Awaiting source stage token v) (hend : token.isEnd = false)
    (hstage : stage.examine token = .ok stage') : Examined source stage' v := by
  obtain ⟨before, hpulled, hbefore⟩ := h.feed
  refine ⟨?_, h.ahead, h.finished.trans hend⟩
  rw [hpulled, Stage.feed_concat_of_ok hbefore, hstage]

/-- A token that is refused ends the run, and is the last that was pulled. -/
theorem Awaiting.refused (h : Awaiting source stage token v) {failure : Failure}
    (hstage : stage.examine token = .error failure) : Refused source failure v := by
  obtain ⟨before, hpulled, hbefore⟩ := h.feed
  exact ⟨before, .ok token, stage, hpulled, hbefore, Stage.feed_ok_cons_of_error hstage,
    h.ahead ▸ List.prefix_append _ _⟩

/-! ### Every part of a run

The parts in the order in which they are used by each other. Each lemma takes what the one before it
gives, and none of them looks into a part that has its own. -/

/-- A pull fails exactly when the scanner does, and the failure is recorded as what was pulled. -/
theorem pull_eq_error_iff {v v' : Validator} {failure : Failure} :
    pull v = .error failure v' ↔
      v.scanner.read.result = .error failure ∧ v' = v.record v.scanner.read := by
  rw [pull]
  cases v.scanner.read.result <;> simp [eq_comm]

/-- A pull leaves a token that waits, or ends the run with the failure of the scanner. Nothing but
the scanner and the record of what was pulled changes. -/
theorem pull_yields (h : Examined source stage v) :
    pull.Yields v (fun token w ↦ Awaiting source stage token w ∧ w.accepted = v.accepted)
      (Refused source) := by
  have hresults := Scanner.results_of_not_finished h.unfinished
  have hahead : scan source =
      (v.pulled.push v.scanner.read.result).toList ++ v.scanner.read.after.results := by
    rw [h.ahead, hresults]
    simp
  rw [Validation.Yields, pull]
  rcases hread : v.scanner.read.result with failure | token
  · refine ⟨v.pulled.toList, .error failure, stage, ?_, h.feed, rfl, ?_⟩
    · simp [record, hread]
    · rw [hahead]
      exact List.prefix_append _ _
  · refine ⟨⟨⟨v.pulled.toList, ?_, h.feed⟩, hahead, ?_⟩, rfl⟩
    · simp [record, hread]
    · exact Scanner.finished_read_after h.unfinished hread

/-- When no token is held over, taking one is pulling it. -/
theorem take_yields_of_pending_eq_none (h : Examined source stage v) (hpending : v.pending = none) :
    take.Yields v (fun token w ↦ Awaiting source stage token w ∧ w.accepted = v.accepted)
      (Refused source) := by
  have hpull := pull_yields h
  rw [Validation.Yields] at hpull ⊢
  rw [take, hpending]
  exact hpull

/-- The token that is held over is the one that is taken. -/
theorem take_yields_of_pending_eq_some (h : Awaiting source stage token v)
    (hpending : v.pending = some token) :
    take.Yields v
      (fun taken w ↦ taken = token ∧ Awaiting source stage token w ∧ w.accepted = v.accepted)
      (Refused source) := by
  rw [Validation.Yields, take, hpending]
  exact ⟨rfl, ⟨h.feed, h.ahead, h.finished⟩, rfl⟩

/-- The operands that are called for are accepted one by one. -/
theorem expectOperands_yields {before : List Instruction} {line : Nat} {opcode : Opcode}
    {kinds : List OperandKind} {found : List Operand}
    (h : Examined source (.instruction before line opcode found kinds) v) :
    (expectOperands line opcode opcode.signature.arity found.length kinds).Yields v
      (fun operands w ↦ Examined source (.instruction before line opcode (found ++ operands) []) w ∧
        w.accepted = v.accepted)
      (Refused source) := by
  -- one operand for each kind that is left, so the induction is on the kinds; the operands found
  -- and the state change on the way
  induction kinds generalizing found v with
  | nil =>
    rw [expectOperands]
    exact ⟨by rwa [List.append_nil], rfl⟩
  | cons kind kinds ih =>
    rw [expectOperands]
    refine (pull_yields h).bind ?_
    rintro token w ⟨hw, haccepted⟩
    by_cases hline : token.isOn line = true
    · have hend := (Token.isOn_eq_true_iff.1 hline).2
      rw [if_pos hline]
      rcases hoperand : Operand.ofToken (found.length + 1) kind token.kind with fault | operand
      · exact hw.refused (by simp [Stage.examine, hline, hoperand])
      · have hnext : Examined source
            (.instruction before line opcode (found ++ [operand]) kinds) w :=
          hw.examined hend (by simp [Stage.examine, hline, hoperand])
        have hrest := ih hnext
        rw [List.length_append, List.length_singleton] at hrest
        refine hrest.bind ?_
        rintro operands w' ⟨hw', haccepted'⟩
        refine ⟨?_, haccepted'.trans haccepted⟩
        rwa [List.append_assoc] at hw'
    · rw [if_neg hline]
      exact hw.refused (by simp [Stage.examine, hline])

/-- Behind the last operand the next token is not on the line, and is held over. -/
theorem expectLineEnd_yields {before : List Instruction} {line : Nat} {opcode : Opcode}
    {found : List Operand} (h : Examined source (.instruction before line opcode found []) v) :
    (expectLineEnd line opcode).Yields v
      (fun _ w ↦ ∃ token, Awaiting source (.instruction before line opcode found []) token w ∧
        w.pending = some token ∧ token.isOn line = false ∧ w.accepted = v.accepted)
      (Refused source) := by
  rw [expectLineEnd]
  refine (pull_yields h).bind ?_
  rintro token w ⟨hw, haccepted⟩
  by_cases hline : token.isOn line = true
  · rw [if_pos hline]
    exact hw.refused (by simp [Stage.examine, hline])
  · rw [if_neg hline]
    exact ⟨token, ⟨hw.feed, hw.ahead, hw.finished⟩, rfl, by simpa using hline, haccepted⟩

/-- The builder takes an instruction that is numbered by the count of those before it. -/
theorem submit_eq {line : Nat} {opcode : Opcode} {operands : List Operand}
    {builder : DocumentBuilder} (haccepted : v.accepted = builder.instructions.size) :
    submit line opcode operands builder v =
      .ok (builder.push (.ofOperands (v.accepted + 1) opcode operands))
        { v with
          accepted := v.accepted + 1
          events := v.events.push
            (.instructionAccepted line (v.accepted + 1) opcode operands.length) } := by
  have happend : DocumentBuilder.append (v.accepted + 1) opcode operands builder =
      .ok () (builder.push (.ofOperands (v.accepted + 1) opcode operands)) :=
    DocumentBuilder.append_of_eq (congrArg (· + 1) haccepted)
  refine Validation.bind_eq_ok_iff.2 ⟨(), _, rfl, ?_⟩
  refine Validation.bind_eq_ok_iff.2 ⟨_, _, rfl, ?_⟩
  refine Validation.bind_eq_ok_iff.2 ⟨(), _, rfl, ?_⟩
  rw [happend]
  rfl

/-- Between two instructions: everything up to a line is complete and handed to the builder, and
the token behind it, which is not on that line, is held over. -/
structure Between (source : String) (builder : DocumentBuilder) (stage : Stage) (line : Nat)
    (token : Token) (v : Validator) : Prop where
  /-- The token was pulled last, and waits for its round. -/
  awaiting : Awaiting source stage token v
  /-- It is the one that is held over. -/
  pending : v.pending = some token
  /-- Up to the line all is complete, and the builder has it. -/
  rests : stage.Rests line builder.instructions.toList
  /-- The token is not on the line, or the line would not be complete. -/
  offLine : token.isOn line = false
  /-- The builder was begun for programs. -/
  language : builder.language = Document.languageName
  /-- The run has counted what the builder has. -/
  accepted : v.accepted = builder.instructions.size

/-- An instruction is accepted as a whole, and the builder has it then. -/
theorem expectInstruction_yields {builder : DocumentBuilder} {line : Nat} {opcode : Opcode}
    (h : Examined source
      (.instruction builder.instructions.toList line opcode [] opcode.operandKinds) v)
    (hlanguage : builder.language = Document.languageName)
    (haccepted : v.accepted = builder.instructions.size) :
    (expectInstruction line opcode builder).Yields v
      (fun longer w ↦ ∃ stage token, Between source longer stage line token w)
      (Refused source) := by
  rw [expectInstruction]
  refine (expectOperands_yields h).bind ?_
  rintro operands w ⟨hw, hwaccepted⟩
  refine (expectLineEnd_yields hw).bind ?_
  rintro _ w' ⟨token, hw', hpending, hline, hw'accepted⟩
  have hcount : w'.accepted = builder.instructions.size :=
    hw'accepted.trans (hwaccepted.trans haccepted)
  rw [Validation.Yields, submit_eq hcount]
  refine ⟨_, token, ⟨hw'.feed, hw'.ahead, hw'.finished⟩, hpending, ?_, hline, hlanguage, ?_⟩
  · have hrests := Stage.Rests.instruction builder.instructions.toList line opcode ([] ++ operands)
    simpa [Stage.numbered, hcount] using hrests
  · simp [hcount]

/-- The header is accepted if it stands alone on its line. -/
theorem expectHeader_yields (h : Examined source .start v) (hpending : v.pending = none)
    (haccepted : v.accepted = 0) :
    expectHeader.Yields v
      (fun builder w ↦ ∃ stage line token, Between source builder stage line token w)
      (Refused source) := by
  rw [expectHeader]
  refine (take_yields_of_pending_eq_none h hpending).bind ?_
  rintro token w ⟨hw, hwaccepted⟩
  rcases hkind : token.kind with - | op | _ | _ | _ | _ | -
  case header =>
    have hend : token.isEnd = false := by simp [Token.isEnd, hkind]
    have hheader : Examined source (.header token.line) w :=
      hw.examined hend (by simp [Stage.examine, hkind])
    refine (pull_yields hheader).bind ?_
    rintro next w' ⟨hw', hw'accepted⟩
    by_cases hline : next.isOn token.line = true
    · rw [if_pos hline]
      exact hw'.refused (by simp [Stage.examine, hline])
    · rw [if_neg hline]
      exact ⟨_, token.line, next, ⟨hw'.feed, hw'.ahead, hw'.finished⟩, rfl, .header token.line,
        by simpa using hline, rfl, hw'accepted.trans (hwaccepted.trans haccepted)⟩
  all_goals exact hw.refused (by simp [Stage.examine, hkind])

/-! ### Rounds

A phase says which stage the run is at, and a round takes it from there to the next. -/

/-- What is true of the state at the beginning of a round. -/
def InPhase (source : String) : Phase → Validator → Prop
  | .header, v => Examined source .start v ∧ v.pending = none ∧ v.accepted = 0
  | .instructions builder, v => ∃ stage line token, Between source builder stage line token v
  | .finished document, v =>
    Stage.start.feed v.pulled.toList = .ok (.finished document) ∧ scan source = v.pulled.toList

/-- Every round keeps the state in line with its phase. -/
theorem advance_yields {phase : Phase} (h : InPhase source phase v) :
    phase.advance.Yields v (InPhase source) (Refused source) := by
  rcases phase with - | builder | document
  · obtain ⟨hexamined, hpending, haccepted⟩ := h
    rw [Phase.advance]
    exact (expectHeader_yields hexamined hpending haccepted).bind fun builder w hw ↦ hw
  · obtain ⟨stage, line, token, hbetween⟩ := h
    -- behind a complete line all stages examine a token alike
    have henter := Stage.examine_of_rests hbetween.rests hbetween.offLine
    rw [Phase.advance]
    refine (take_yields_of_pending_eq_some hbetween.awaiting hbetween.pending).bind ?_
    rintro taken w ⟨heq, hw, hwaccepted⟩
    subst heq
    rcases hkind : taken.kind with - | op | _ | _ | _ | _ | -
    case opcode =>
      have hend : taken.isEnd = false := by simp [Token.isEnd, hkind]
      have hexamined := hw.examined hend (henter.trans (by rw [Stage.enter, hkind]))
      have hinstruction := expectInstruction_yields hexamined hbetween.language
        (hwaccepted.trans hbetween.accepted)
      refine hinstruction.bind ?_
      rintro longer w' ⟨stage', token', hw'⟩
      exact ⟨stage', _, token', hw'⟩
    case endOfStream =>
      obtain ⟨before, hpulled, hbefore⟩ := hw.feed
      have hfinished : w.scanner.finished = true := by
        rw [hw.finished, Token.isEnd, hkind]
        rfl
      refine ⟨?_, ?_⟩
      · show Stage.start.feed w.pulled.toList = .ok (.finished builder.finish)
        rw [hpulled, Stage.feed_concat_of_ok hbefore, henter, Stage.enter, hkind,
          DocumentBuilder.finish, hbetween.language]
      · have hahead := hw.ahead
        rwa [Scanner.results_of_finished hfinished, List.append_nil] at hahead
    all_goals exact hw.refused (henter.trans (by rw [Stage.enter, hkind]))
  · exact h

/-! ### Whole runs

By induction on the rounds. What comes out is stated without phases and states, for the use of
everything that follows. -/

/-- A run goes on from where a round ends. -/
theorem runFrom_of_advance_ok {phase phase' : Phase} {w : Validator}
    (hphase : phase.isFinished = false) (h : phase.advance v = .ok phase' w) :
    runFrom phase v = runFrom phase' w := by
  rcases phase with - | builder | document
  case finished => cases hphase
  all_goals
    rw [runFrom]
    split
    · rename_i h'
      obtain ⟨rfl, rfl⟩ := EStateM.Result.ok.inj (h.symm.trans h')
      rfl
    · rename_i h'
      cases h.symm.trans h'

/-- A run ends with the failure of a round. -/
theorem runFrom_of_advance_error {phase : Phase} {failure : Failure} {w : Validator}
    (hphase : phase.isFinished = false) (h : phase.advance v = .error failure w) :
    runFrom phase v = .error failure w := by
  rcases phase with - | builder | document
  case finished => cases hphase
  all_goals
    rw [runFrom]
    split
    · rename_i h'
      cases h.symm.trans h'
    · rename_i h'
      obtain ⟨rfl, rfl⟩ := EStateM.Result.error.inj (h.symm.trans h')
      rfl

/-- What is true of finished phases, and of failing rounds, and of rounds that are followed by what
it is true of, is true of every run. -/
theorem runFrom_induction
    {motive : Phase → Validator → EStateM.Result Failure Validator Document → Prop}
    (hfinished : ∀ document v, motive (.finished document) v (.ok document v))
    (hfailed : ∀ phase v failure w, phase.isFinished = false →
      phase.advance v = .error failure w → motive phase v (.error failure w))
    (hadvanced : ∀ phase v phase' w, phase.isFinished = false → phase.advance v = .ok phase' w →
      motive phase' w (runFrom phase' w) → motive phase v (runFrom phase' w))
    (phase : Phase) (v : Validator) : motive phase v (runFrom phase v) := by
  -- the induction is on how much there is to do, and not on the phase, which is no smaller behind a
  -- round
  have htodo : ∀ n, ∀ (phase : Phase) (v : Validator), phase.todo v = n →
      motive phase v (runFrom phase v) := by
    intro n
    induction n using Nat.strongRecOn with
    | ind n ih =>
      intro phase v hn
      rcases hphase : phase.isFinished with - | -
      · rcases hround : phase.advance v with ⟨phase', w⟩ | ⟨failure, w⟩
        · rw [runFrom_of_advance_ok hphase hround]
          have hlt : phase'.todo w < n := hn ▸ Phase.todo_advance_lt hround hphase
          exact hadvanced phase v phase' w hphase hround (ih _ hlt phase' w rfl)
        · rw [runFrom_of_advance_error hphase hround]
          exact hfailed phase v failure w hphase hround
      · rcases phase with - | builder | document
        case finished =>
          rw [runFrom]
          exact hfinished document v
        all_goals cases hphase
  exact htodo _ phase v rfl

/-- What is left of a run keeps to the scan until it ends. -/
theorem runFrom_outcome {phase : Phase} (h : InPhase source phase v) :
    match runFrom phase v with
    | .ok document w => InPhase source (.finished document) w
    | .error failure w => Refused source failure w := by
  revert h
  refine runFrom_induction (motive := fun phase v result ↦ InPhase source phase v →
    match result with
    | .ok document w => InPhase source (.finished document) w
    | .error failure w => Refused source failure w) ?_ ?_ ?_ phase v
  · exact fun document v h ↦ h
  · intro phase v failure w _ hround h
    have hadvance := advance_yields h
    rwa [Validation.Yields, hround] at hadvance
  · intro phase v phase' w _ hround ih h
    have hadvance := advance_yields h
    rw [Validation.Yields, hround] at hadvance
    exact ih hadvance

/-- **A run is its stages.** An accepted program is scanned to its end, and all its results lead
to the document. A rejected one is scanned up to the first result that leads to a failure, and
that failure is reported. -/
theorem run_outcome (source : String) :
    match (run source).result with
    | .ok document =>
      (run source).pulled = scan source ∧
        Stage.start.feed (scan source) = .ok (.finished document)
    | .error failure =>
      ∃ before last stage, (run source).pulled = before ++ [last] ∧
        Stage.start.feed before = .ok stage ∧ stage.feed [last] = .error failure ∧
        (run source).pulled <+: scan source := by
  have hstart : InPhase source .header (ofSource source) :=
    ⟨⟨rfl, rfl, rfl⟩, rfl, rfl⟩
  have houtcome := runFrom_outcome hstart
  rw [run]
  rcases hrun : runFrom .header (ofSource source) with ⟨document, w⟩ | ⟨failure, w⟩
  · rw [hrun] at houtcome
    obtain ⟨hfeed, hscan⟩ := houtcome
    exact ⟨hscan.symm, hscan ▸ hfeed⟩
  · rw [hrun] at houtcome
    exact houtcome

theorem run_outcome_of_ok {source : String} {document : Document}
    (h : (run source).result = .ok document) :
    (run source).pulled = scan source ∧
      Stage.start.feed (scan source) = .ok (.finished document) := by
  have houtcome := run_outcome source
  rwa [h] at houtcome

theorem run_outcome_of_error {source : String} {failure : Failure}
    (h : (run source).result = .error failure) :
    ∃ before last stage, (run source).pulled = before ++ [last] ∧
      Stage.start.feed before = .ok stage ∧ stage.feed [last] = .error failure ∧
      (run source).pulled <+: scan source := by
  have houtcome := run_outcome source
  rwa [h] at houtcome

/-- What was pulled is a beginning of the scan. -/
theorem pulled_prefix_scan (source : String) : (run source).pulled <+: scan source := by
  rcases hresult : (run source).result with failure | document
  · obtain ⟨-, -, -, -, -, -, hprefix⟩ := run_outcome_of_error hresult
    exact hprefix
  · exact ⟨[], by rw [List.append_nil, (run_outcome_of_ok hresult).1]⟩

/-- What was pulled leads to the failure that is reported. -/
theorem feed_pulled_of_error {source : String} {failure : Failure}
    (h : (run source).result = .error failure) :
    Stage.start.feed (run source).pulled = .error failure := by
  obtain ⟨before, last, stage, hpulled, hbefore, hlast, -⟩ := run_outcome_of_error h
  rw [hpulled, Stage.feed_append_of_ok hbefore, hlast]

/-- A run fails exactly as all results of the scan do. -/
theorem run_result_eq_error_iff {source : String} {failure : Failure} :
    (run source).result = .error failure ↔ Stage.start.feed (scan source) = .error failure := by
  have hpulled : ∀ failure, (run source).result = .error failure →
      Stage.start.feed (scan source) = .error failure := by
    intro failure h
    obtain ⟨rest, hrest⟩ := pulled_prefix_scan source
    rw [← hrest, Stage.feed_append_of_error (feed_pulled_of_error h)]
  refine ⟨hpulled failure, fun h ↦ ?_⟩
  rcases hresult : (run source).result with failure' | document
  · rw [hpulled failure' hresult] at h
    exact congrArg Except.error (Except.error.inj h)
  · rw [(run_outcome_of_ok hresult).2] at h
    cases h

end Validator

/-- A document is what all results of the scan lead to. -/
theorem validate_eq_ok_iff_feed {source : String} {document : Document} :
    validate source = .ok document ↔
      Stage.start.feed (scan source) = .ok (.finished document) := by
  constructor
  · exact fun h ↦ (Validator.run_outcome_of_ok h).2
  · intro h
    rcases hresult : (Validator.run source).result with failure | document'
    · rw [Validator.run_result_eq_error_iff.1 hresult] at h
      cases h
    · have hfeed := (Validator.run_outcome_of_ok hresult).2
      rw [h] at hfeed
      cases hfeed
      exact hresult

end IppCode
