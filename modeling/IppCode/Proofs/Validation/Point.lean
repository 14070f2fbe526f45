import IppCode.Proofs.Validation.Simulation

/-!
# The points of a run

A run asks for one token after the other. A `Point` is where it asks for the next one, with all that
it has come to until then: `Point.ask` asks for the token, and `Point.examine` is what the run does
with it before it asks again. Taken together they are the steps of the run, and `Point.Runs` says
where they end.

The steps are those of the validator: `runs_iff` says that they end in the very result and the very
state that `Validator.runFrom` ends in. Its proof takes the parts of a run one after the other; each
part that succeeds goes on from its last point (`Point.GoesOn`), and each that fails ends the steps.

A run is written as a program, where what has been come to is a place in it and the values of its
variables. There is no talking about such a place from outside, and what is true between two tokens
cannot be said of a program that goes on. A point is that place as data. It differs from a `Stage`
in that a run of the validator stands behind it: what a step does to the scanner, to the token that
is held over and to the record is part of the step.
-/

namespace IppCode

/-- Where a run asks for the next token. -/
inductive Point
  /-- The header is expected. -/
  | header
  /-- The header stands on the line, and nothing else should. -/
  | headerEnd (line : Nat)
  /-- Behind complete instructions another one is expected, or the end. -/
  | instructions (builder : DocumentBuilder)
  /-- Operands of the missing kinds are expected on the line of the opcode, and then its end. -/
  | instruction (builder : DocumentBuilder) (line : Nat) (opcode : Opcode)
      (found : List Operand) (missing : List OperandKind)

namespace Point

open Validator

/-- Asks for the next token. Where a line is to begin, the one that was held over is taken, if
any; within a line the next one is pulled from the scanner directly. -/
def ask : Point → Validation Token
  | header => take
  | headerEnd _ => pull
  | instructions _ => take
  | instruction _ _ _ _ _ => pull

/-- What the run does with the token: it fails, or goes on to the next point or the document. -/
def examine : Point → Token → Validation (Point ⊕ Document)
  | header, token =>
    match token.kind with
    | .header => return .inl (headerEnd token.line)
    | .endOfStream => throw (.header none .emptyProgram)
    | other => throw (.header (some token.line) (.missing other.text))
  | headerEnd line, token => do
    if token.isOn line then throw (.header (some line) (.notAlone token.kind.text))
    else
      hold token
      report (.headerAccepted line)
      return .inl (instructions (DocumentBuilder.begin Document.languageName))
  | instructions builder, token => do
    match token.kind with
    | .opcode op => return .inl (instruction builder token.line op [] op.operandKinds)
    | .endOfStream =>
      report (.programAccepted (← get).accepted)
      return .inr builder.finish
    | other => throw (.badOpcode token.line other.text)
  | instruction builder line opcode found [], token => do
    if token.isOn line then
      throw (.operands line opcode (.tooMany opcode.signature.arity token.kind.text))
    else
      hold token
      let longer ← submit line opcode found builder
      return .inl (instructions longer)
  | instruction builder line opcode found (kind :: kinds), token => do
    if token.isOn line then
      match Operand.ofToken (found.length + 1) kind token.kind with
      | .ok operand => return .inl (instruction builder line opcode (found ++ [operand]) kinds)
      | .error fault => throw (.operands line opcode fault)
    else throw (.operands line opcode (.tooFew opcode.signature.arity found.length))

/-- One step of a run. -/
def step (point : Point) : Validation (Point ⊕ Document) := do
  let token ← point.ask
  point.examine token

/-- From the point, in the state, the steps end with the result. -/
inductive Runs : Point → Validator → EStateM.Result Failure Validator Document → Prop
  /-- A step that fails is the last one. -/
  | failed {point : Point} {v w : Validator} {failure : Failure}
      (hstep : point.step v = .error failure w) : Runs point v (.error failure w)
  /-- So is the step that finishes the document. -/
  | finished {point : Point} {v w : Validator} {document : Document}
      (hstep : point.step v = .ok (.inr document) w) : Runs point v (.ok document w)
  /-- Any other step leads to a point from which the steps go on. -/
  | passed {point next : Point} {v w : Validator}
      {result : EStateM.Result Failure Validator Document}
      (hstep : point.step v = .ok (.inl next) w) (hnext : Runs next w result) : Runs point v result

variable {point next : Point} {v w : Validator} {token : Token}
  {result result' : EStateM.Result Failure Validator Document}

/-- The first step decides, or leaves it to the next. -/
theorem runs_iff_step :
    point.Runs v result ↔
      match point.step v with
      | .error failure w => result = .error failure w
      | .ok (.inr document) w => result = .ok document w
      | .ok (.inl next) w => next.Runs w result := by
  constructor
  · intro h
    cases h with
    | failed hstep => rw [hstep]
    | finished hstep => rw [hstep]
    | passed hstep hnext => rwa [hstep]
  · rcases hstep : point.step v with ⟨next | document, w⟩ | ⟨failure, w⟩
    · exact .passed hstep
    · rintro rfl
      exact .finished hstep
    · rintro rfl
      exact .failed hstep

/-- The steps end in one way only. -/
theorem Runs.unique (h : point.Runs v result) (h' : point.Runs v result') : result = result' := by
  induction h with
  | failed hstep =>
    rw [runs_iff_step, hstep] at h'
    exact h'.symm
  | finished hstep =>
    rw [runs_iff_step, hstep] at h'
    exact h'.symm
  | passed hstep hnext ih =>
    rw [runs_iff_step, hstep] at h'
    exact ih h'

/-! ### Steps of a part of a run

A part of a run is one step or more, and a step may be in two parts, since a token that is held over
is examined in the next round. Each part is followed from its first point to its last. -/

/-- Where the steps end from the next point, they end from this one. -/
def GoesOn (point : Point) (v : Validator) (next : Point) (w : Validator) : Prop :=
  ∀ result, next.Runs w result → point.Runs v result

theorem GoesOn.of_step (hstep : point.step v = .ok (.inl next) w) : point.GoesOn v next w :=
  fun _ hnext ↦ .passed hstep hnext

theorem GoesOn.trans {later : Point} {w' : Validator} (h : point.GoesOn v next w)
    (h' : next.GoesOn w later w') : point.GoesOn v later w' :=
  fun result hlater ↦ h result (h' result hlater)

/-- A step fails where its question does. -/
theorem step_of_ask_error {failure : Failure} (h : point.ask v = .error failure w) :
    point.step v = .error failure w := by
  show EStateM.bind _ _ v = _
  rw [EStateM.bind, h]

/-- A step is what is done with the token that is asked for. -/
theorem step_of_ask_ok (h : point.ask v = .ok token w) : point.step v = point.examine token w := by
  show EStateM.bind _ _ v = _
  rw [EStateM.bind, h]

/-- What a part of a run yields that begins with the question of a point. -/
theorem ask_bind_yields (point : Point) {α : Type} {f : Token → Validation α}
    {post : α → Validator → Prop}
    (h : ∀ token w, point.ask v = .ok token w → point.step v = point.examine token w →
      (f token).Yields w post fun failure w' ↦ point.Runs v (.error failure w')) :
    (point.ask >>= f).Yields v post fun failure w ↦ point.Runs v (.error failure w) := by
  have hask : point.ask.Yields v (fun token w ↦ point.ask v = .ok token w)
      fun failure w ↦ point.Runs v (.error failure w) := by
    rw [Validation.Yields]
    rcases hask : point.ask v with ⟨token, w⟩ | ⟨failure, w⟩
    · rfl
    · exact .failed (step_of_ask_error hask)
  exact hask.bind fun token w hask ↦ h token w hask (step_of_ask_ok hask)

/-- What a part of a run yields that makes up the rest of a step. -/
theorem yields_of_step {α : Type} {x : Validation α} {next : α → Point}
    (h : point.step v = (x >>= fun a ↦ pure (.inl (next a))) w) :
    x.Yields w (fun a w' ↦ point.GoesOn v (next a) w')
      fun failure w' ↦ point.Runs v (.error failure w') := by
  replace h : point.step v = EStateM.bind x (fun a ↦ pure (.inl (next a))) w := h
  rw [EStateM.bind] at h
  rw [Validation.Yields]
  rcases hx : x w with ⟨a, w'⟩ | ⟨failure, w'⟩
  · rw [hx] at h
    exact .of_step h
  · rw [hx] at h
    exact .failed h

/-- The operands are asked for one by one. -/
theorem expectOperands_yields {builder : DocumentBuilder} {line : Nat} {opcode : Opcode}
    {kinds : List OperandKind} (found : List Operand) :
    (expectOperands line opcode opcode.signature.arity found.length kinds).Yields v
      (fun operands w ↦ (instruction builder line opcode found kinds).GoesOn v
        (instruction builder line opcode (found ++ operands) []) w)
      fun failure w ↦ (instruction builder line opcode found kinds).Runs v (.error failure w) := by
  -- one question for each kind that is missing; the operands found so far are in the point
  induction kinds generalizing found v with
  | nil =>
    rw [expectOperands]
    intro result hresult
    rwa [List.append_nil] at hresult
  | cons kind kinds ih =>
    rw [expectOperands]
    refine ask_bind_yields (instruction builder line opcode found (kind :: kinds)) ?_
    intro token w hask hstep
    rw [examine] at hstep
    split at hstep
    · rename_i hon
      rw [if_pos hon]
      rcases hoperand : Operand.ofToken (found.length + 1) kind token.kind with fault | operand
      · rw [hoperand] at hstep
        exact .failed hstep
      · rw [hoperand] at hstep
        have hgoes := GoesOn.of_step hstep
        have hrest := ih (v := w) (found ++ [operand])
        rw [List.length_append, List.length_singleton] at hrest
        refine (hrest.imp (fun _ _ ↦ hgoes.trans) (fun _ _ ↦ hgoes _)).bind ?_
        intro operands w' hoperands
        rwa [List.append_assoc] at hoperands
    · rename_i hoff
      rw [if_neg hoff]
      exact .failed hstep

/-- Behind the last operand the line ends, and the instruction is handed over. -/
theorem expectInstruction_yields {builder : DocumentBuilder} {line : Nat} {opcode : Opcode} :
    (expectInstruction line opcode builder).Yields v
      (fun longer w ↦ (instruction builder line opcode [] opcode.operandKinds).GoesOn v
        (instructions longer) w)
      (fun failure w ↦
        (instruction builder line opcode [] opcode.operandKinds).Runs v (.error failure w)) := by
  rw [expectInstruction]
  refine (expectOperands_yields []).bind fun operands w hgoes ↦ ?_
  rw [expectLineEnd, bind_assoc]
  refine (ask_bind_yields (instruction builder line opcode operands []) ?_).imp
    (fun _ _ ↦ hgoes.trans) (fun _ _ ↦ hgoes _)
  intro token w' hask hstep
  rw [examine] at hstep
  split at hstep
  · rename_i hon
    rw [if_pos hon]
    exact .failed hstep
  · -- the token is held over, and the instruction handed over, in one step
    rename_i hoff
    rw [← bind_assoc] at hstep
    rw [if_neg hoff]
    exact yields_of_step hstep

/-- The header is accepted, and then the end of its line. -/
theorem expectHeader_yields :
    expectHeader.Yields v (fun builder w ↦ header.GoesOn v (instructions builder) w)
      (fun failure w ↦ header.Runs v (.error failure w)) := by
  rw [expectHeader]
  refine ask_bind_yields header fun token w hask hstep ↦ ?_
  rw [examine] at hstep
  rcases hkind : token.kind with - | op | _ | _ | _ | _ | -
  case header =>
    rw [hkind] at hstep
    have hgoes := GoesOn.of_step hstep
    refine (ask_bind_yields (headerEnd token.line) ?_).imp
      (fun _ _ ↦ hgoes.trans) (fun _ _ ↦ hgoes _)
    intro next w' hask hstep
    rw [examine] at hstep
    split at hstep
    · rename_i hon
      rw [if_pos hon]
      exact .failed hstep
    · rename_i hoff
      rw [if_neg hoff]
      exact .of_step hstep
  all_goals
    rw [hkind] at hstep
    exact .failed hstep

end Point

/-! ### Whole runs

The phases are the points at which rounds begin. A run is the steps from the first of them. -/

/-- From the beginning of a phase, in the state, the steps end with the result. -/
def Phase.Runs : Phase → Validator → EStateM.Result Failure Validator Document → Prop
  | header, v, result => Point.header.Runs v result
  | instructions builder, v, result => (Point.instructions builder).Runs v result
  | finished document, v, result => result = .ok document v

namespace Point

open Validator

variable {v : Validator} {result : EStateM.Result Failure Validator Document}

/-- A round takes the steps from one phase to the next. -/
theorem advance_yields {phase : Phase} (hphase : phase.isFinished = false) :
    phase.advance.Yields v (fun next w ↦ ∀ result, next.Runs w result → phase.Runs v result)
      (fun failure w ↦ phase.Runs v (.error failure w)) := by
  rcases phase with - | builder | document
  · rw [Phase.advance]
    exact expectHeader_yields.bind fun builder w hgoes ↦ hgoes
  · rw [Phase.advance]
    refine ask_bind_yields (instructions builder) fun token w hask hstep ↦ ?_
    rw [examine] at hstep
    rcases hkind : token.kind with - | op | _ | _ | _ | _ | -
    case opcode =>
      rw [hkind] at hstep
      have hgoes := GoesOn.of_step hstep
      exact (expectInstruction_yields.imp (fun _ _ ↦ hgoes.trans) (fun _ _ ↦ hgoes _)).bind
        fun longer w' hlonger ↦ hlonger
    case endOfStream =>
      rw [hkind] at hstep
      rintro result rfl
      exact .finished hstep
    all_goals
      rw [hkind] at hstep
      exact .failed hstep
  · cases hphase

/-- **The steps are those of the validator**: they end as its runs do. -/
theorem runs_iff {source : String} :
    header.Runs (ofSource source) result ↔ result = runFrom .header (ofSource source) := by
  have hruns : Phase.header.Runs (ofSource source) (runFrom .header (ofSource source)) := by
    refine runFrom_induction (motive := Phase.Runs) ?_ ?_ ?_ .header (ofSource source)
    · exact fun document v ↦ rfl
    · intro phase v failure w hphase hround
      have hadvance := advance_yields (v := v) hphase
      rwa [Validation.Yields, hround] at hadvance
    · intro phase v phase' w hphase hround ih
      have hadvance := advance_yields (v := v) hphase
      rw [Validation.Yields, hround] at hadvance
      exact hadvance _ ih
  constructor
  · exact fun h ↦ h.unique hruns
  · rintro rfl
    exact hruns

end Point

end IppCode
