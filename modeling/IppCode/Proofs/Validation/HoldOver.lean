import IppCode.Proofs.Validation.Diagnosis
import IppCode.Proofs.Validation.Point

/-!
# The token that is held over

Between two instructions a run holds a token over, and nowhere else. `Reaches` goes along the points
of a run and keeps the tokens that are settled: a step settles the token that it asks for, unless it
holds it over. `HeldOver` is what is true at every point. In particular the results of the scan are
settled in order, without a gap and without a repetition, and the builder has as many instructions
as the run has counted.

One step keeps all of this (`HeldOver.step`), because a step does one of two things
(`examine_passes`): it settles its token, which opens a line or stays on it, or it holds over a
token that is not on the line. So it is true all along a run (`Reaches.heldOver`), up to the one
result that ends it (`Runs.exists_last`), and no run fails because instructions were handed over out
of sequence (`hold_over`).

The settled tokens are no part of the state: a validator forgets them. They are kept beside the run,
in the index of `Reaches`, and `HeldOver` ties them to what was pulled. That the two lists are one,
up to the token that is held over, is what "no gap and no repetition" comes to; the scan enters by
`ahead`, which says that nothing was pulled but its results.

A token that is held over is the end or on a later line than all before it (`pending`). This is what
the next step relies on when it takes the token for the first of an instruction without looking at
its line.
-/

namespace IppCode

namespace Point

open Validator

/-- The instructions that were handed over. -/
def builder? : Point → Option DocumentBuilder
  | header => none
  | headerEnd _ => none
  | instructions builder => some builder
  | instruction builder _ _ _ _ => some builder

/-- The line that has been begun. -/
def line? : Point → Option Nat
  | header => none
  | headerEnd line => some line
  | instructions _ => none
  | instruction _ line _ _ _ => some line

/-- The tokens that are settled behind a step, which has asked for the token and led to the state:
it is one of them unless it is held over. -/
def settle (settled : List Token) (token : Token) (w : Validator) : List Token :=
  match w.pending with
  | none => settled ++ [token]
  | some _ => settled

/-- The run of the source comes to the point, in the state, when it has settled the tokens. -/
inductive Reaches (source : String) : Point → Validator → List Token → Prop
  /-- A run starts without settled tokens. -/
  | start : Reaches source header (ofSource source) []
  /-- A step asks for a token and examines it. Which tokens are settled behind it depends on whether
  the token is held over. -/
  | step {point next : Point} {v w w' : Validator} {token : Token} {settled : List Token}
      (h : Reaches source point v settled) (hask : point.ask v = .ok token w)
      (hexamine : point.examine token w = .ok (.inl next) w') :
    Reaches source next w' (settle settled token w')

/-- What is true at every point of a run. -/
structure HeldOver (source : String) (point : Point) (v : Validator) (settled : List Token) :
    Prop where
  /-- What was pulled and what lies ahead is the scan. -/
  ahead : scan source = v.pulled.toList ++ v.scanner.results
  /-- All that was pulled is settled, in order, but for the token that is held over. -/
  pulled : v.pulled.toList = (settled ++ v.pending.toList).map .ok
  /-- The end is never settled. -/
  unended : ∀ token ∈ settled, token.isEnd = false
  /-- A token is held over between instructions, and only there. It is the end, or on a later line
  than all tokens before it. -/
  pending : match point with
    | instructions _ => ∃ token, v.pending = some token ∧
        (token.isEnd = true ∨ ∀ other ∈ settled, other.line < token.line)
    | _ => v.pending = none
  /-- The line that has been begun is that of the last token settled. -/
  line : ∀ line, point.line? = some line →
    ∃ before last, settled = before ++ [last] ∧ last.line = line
  /-- What was counted is what was handed over. -/
  accepted : ∀ builder, point.builder? = some builder → v.accepted = builder.instructions.size
  /-- Before there is a builder, nothing has been counted. -/
  fresh : point.builder? = none → v.accepted = 0

/-- The token was asked for last, and all that was pulled before it is settled. -/
structure Asked (source : String) (settled : List Token) (token : Token) (v w : Validator) :
    Prop where
  /-- What was pulled and what lies ahead is the scan. -/
  ahead : scan source = w.pulled.toList ++ w.scanner.results
  /-- The token is the last one that was pulled. -/
  pulled : w.pulled.toList = (settled ++ [token]).map .ok
  /-- It is in hand now, so nothing is held over. -/
  pending : w.pending = none
  /-- Asking counts nothing. -/
  accepted : w.accepted = v.accepted

variable {source : String} {point next : Point} {v w w' : Validator} {token : Token}
  {settled : List Token}

/-! ### Asking for a token

A run asks by pulling, or by taking what was held over; which of the two it is shows in the state.
In both cases the token is the next one that is not settled. -/

/-- Where nothing is held over, the end has not been pulled. -/
theorem HeldOver.unfinished (h : HeldOver source point v settled) (hpending : v.pending = none) :
    v.scanner.finished = false := by
  -- otherwise the whole scan would be settled, its end included
  by_contra hfinished
  rw [Bool.not_eq_false] at hfinished
  obtain ⟨line, hscan⟩ := scan_eq_dropLast source
  have hend : .ok ⟨.endOfStream, line⟩ ∈ scan source := by
    rw [hscan]
    simp
  rw [h.ahead, Scanner.results_of_finished hfinished, List.append_nil, h.pulled, hpending] at hend
  simp only [Option.toList_none, List.append_nil, List.mem_map, Except.ok.injEq,
    exists_eq_right] at hend
  cases h.unended _ hend

/-- The next token is the one that is held over, or is pulled if there is none. -/
theorem HeldOver.ask_eq (h : HeldOver source point v settled) :
    (v.pending = none ∧ point.ask v = pull v) ∨
      ∃ held, v.pending = some held ∧ point.ask v = .ok held { v with pending := none } := by
  have hpending := h.pending
  rcases point with - | line | builder | ⟨builder, line, opcode, found, missing⟩
  · refine .inl ⟨hpending, ?_⟩
    rw [ask, take, hpending]
  · exact .inl ⟨hpending, rfl⟩
  · obtain ⟨held, hheld, -⟩ := hpending
    refine .inr ⟨held, hheld, ?_⟩
    rw [ask, take, hheld]
  · exact .inl ⟨hpending, rfl⟩

/-- Whichever it is, it comes next behind the tokens that are settled. -/
theorem HeldOver.asked (h : HeldOver source point v settled) (hask : point.ask v = .ok token w) :
    Asked source settled token v w := by
  rcases h.ask_eq with ⟨hpending, hpull⟩ | ⟨held, hheld, htake⟩
  · have hresults := Scanner.results_of_not_finished (h.unfinished hpending)
    obtain ⟨hresult, rfl⟩ := pull_eq_ok_iff.1 (hpull.symm.trans hask)
    refine ⟨?_, ?_, hpending, rfl⟩
    · rw [h.ahead, hresults]
      simp [record]
    · simp [record, hresult, h.pulled, hpending]
  · cases htake.symm.trans hask
    refine ⟨h.ahead, ?_, rfl, rfl⟩
    rw [h.pulled, hheld]
    rfl

/-- A failure is pulled in the place of the next token. -/
theorem HeldOver.pulled_of_ask_error (h : HeldOver source point v settled) {failure : Failure}
    (hask : point.ask v = .error failure w) :
    w.pulled.toList = settled.map .ok ++ [.error failure] ∧ w.pulled.toList <+: scan source := by
  rcases h.ask_eq with ⟨hpending, hpull⟩ | ⟨held, hheld, htake⟩
  · have hresults := Scanner.results_of_not_finished (h.unfinished hpending)
    obtain ⟨hresult, rfl⟩ := pull_eq_error_iff.1 (hpull.symm.trans hask)
    refine ⟨by simp [record, hresult, h.pulled, hpending], v.scanner.read.after.results, ?_⟩
    rw [h.ahead, hresults]
    simp [record]
  · cases htake.symm.trans hask

/-- What is asked for comes next in the scan. -/
theorem Asked.prefix_scan (h : Asked source settled token v w) :
    (settled ++ [token]).map .ok <+: scan source := by
  rw [← h.pulled, h.ahead]
  exact List.prefix_append _ _

/-- A token that is not on the line that has been begun is on a later one, or the end. -/
theorem Asked.later (h : Asked source settled token v w) {before : List Token} {last : Token}
    (hsettled : settled = before ++ [last]) (hoff : token.isOn last.line = false) :
    token.isEnd = true ∨ ∀ other ∈ settled, other.line < token.line := by
  rcases hend : token.isEnd with - | -
  case true => exact .inl rfl
  refine .inr fun other hother ↦ ?_
  obtain ⟨hlines, -, hle⟩ := List.pairwise_append.1 (pairwise_line_of_prefix_scan h.prefix_scan)
  have hlast : last.line < token.line := by
    refine Token.line_lt_of_isOn_eq_false hoff hend (hle last ?_ token List.mem_cons_self)
    rw [hsettled]
    simp
  rw [hsettled] at hlines hother
  rcases List.mem_append.1 hother with hbefore | hother
  · have hle' := (List.pairwise_append.1 hlines).2.2 other hbefore last List.mem_cons_self
    exact Nat.lt_of_le_of_lt hle' hlast
  · rwa [List.mem_singleton.1 hother]

/-! ### One step

What is true at a point is true at the next. Each point has its own reasons, which are put together
by cases; a failing step leads to no point and needs none. -/

/-- What a step does that goes on to a point: it settles the token, which begins a line or stays on
it, or it ends a line and holds the token over. -/
theorem examine_passes (haccepted : ∀ builder, point.builder? = some builder →
      w.accepted = builder.instructions.size) (hfresh : point.builder? = none → w.accepted = 0)
    (h : point.examine token w = .ok (.inl next) w') :
    (w' = w ∧ token.isEnd = false ∧ next.line? = some token.line ∧
      next.builder? = point.builder?) ∨
    ∃ line builder, point.line? = some line ∧ token.isOn line = false ∧
      next = instructions builder ∧ w'.scanner = w.scanner ∧ w'.pulled = w.pulled ∧
      w'.pending = some token ∧ w'.accepted = builder.instructions.size := by
  -- one case for each form of a point, where a point within an instruction has operands left or has
  -- not
  rcases point with - | line | builder | ⟨builder, line, opcode, found, - | ⟨kind, kinds⟩⟩
  · rw [examine] at h
    rcases hkind : token.kind with - | op | _ | _ | _ | _ | - <;> rw [hkind] at h <;> cases h
    exact .inl ⟨rfl, by simp [Token.isEnd, hkind], rfl, rfl⟩
  · rw [examine] at h
    split at h
    · cases h
    · rename_i hoff
      cases h
      exact .inr ⟨line, _, rfl, by simpa using hoff, rfl, rfl, rfl, rfl, hfresh rfl⟩
  · rw [examine] at h
    rcases hkind : token.kind with - | op | _ | _ | _ | _ | - <;> rw [hkind] at h <;> cases h
    exact .inl ⟨rfl, by simp [Token.isEnd, hkind], rfl, rfl⟩
  · rw [examine] at h
    split at h
    · cases h
    · rename_i hoff
      obtain ⟨_, w₁, hhold, h⟩ := Validation.bind_eq_ok_iff.1 h
      obtain rfl : { w with pending := some token } = w₁ := by cases hhold; rfl
      have hcount : ({ w with pending := some token } : Validator).accepted =
          builder.instructions.size := haccepted builder rfl
      obtain ⟨longer, w₂, hsubmit, h⟩ := Validation.bind_eq_ok_iff.1 h
      rw [submit_eq hcount] at hsubmit
      cases hsubmit
      cases h
      exact .inr ⟨line, _, rfl, by simpa using hoff, rfl, rfl, rfl, rfl,
        by simp [haccepted builder rfl]⟩
  · rw [examine] at h
    split at h
    · rename_i hon
      obtain ⟨hline, hend⟩ := Token.isOn_eq_true_iff.1 hon
      rcases hoperand : Operand.ofToken (found.length + 1) kind token.kind with fault | operand
      · rw [hoperand] at h
        cases h
      · rw [hoperand] at h
        cases h
        exact .inl ⟨rfl, hend, congrArg some hline.symm, rfl⟩
    · cases h

/-- Nothing is pulled while an instruction is handed over. -/
theorem submit_pulled (line : Nat) (opcode : Opcode) (operands : List Operand)
    (builder : DocumentBuilder) (pulled : Array (Except Failure Token)) :
    (submit line opcode operands builder).Keeps (·.pulled = pulled) := by
  -- counting, looking at the count and reporting leave alone what was pulled
  refine .bind (fun _ hw ↦ hw) fun _ ↦ ?_
  refine .bind (fun _ hw ↦ hw) fun v ↦ ?_
  refine .bind (fun _ hw ↦ hw) fun _ ↦ ?_
  split
  · exact .pure _
  · exact .throw _

/-- Nothing is pulled while a token is examined. -/
theorem examine_pulled (point : Point) (token : Token) (pulled : Array (Except Failure Token)) :
    (point.examine token).Keeps (·.pulled = pulled) := by
  rcases point with - | line | builder | ⟨builder, line, opcode, found, - | ⟨kind, kinds⟩⟩
  · rw [examine]
    rcases token.kind with - | op | _ | _ | _ | _ | - <;> exact fun _ hw ↦ hw
  · rw [examine]
    split <;> exact fun _ hw ↦ hw
  · rw [examine]
    rcases token.kind with - | op | _ | _ | _ | _ | - <;> exact fun _ hw ↦ hw
  · rw [examine]
    split
    · exact .throw _
    · refine .bind (fun _ hw ↦ hw) fun _ ↦ ?_
      exact (submit_pulled line opcode found builder pulled).bind fun longer ↦ .pure _
  · rw [examine]
    split
    · rcases Operand.ofToken (found.length + 1) kind token.kind with fault | operand
      · exact .throw _
      · exact .pure _
    · exact .throw _

/-- One step keeps what is true at a point. -/
theorem HeldOver.step (h : HeldOver source point v settled) (hask : point.ask v = .ok token w)
    (hexamine : point.examine token w = .ok (.inl next) w') :
    HeldOver source next w' (settle settled token w') := by
  have hasked := h.asked hask
  have haccepted : ∀ builder, point.builder? = some builder →
      w.accepted = builder.instructions.size :=
    fun builder hbuilder ↦ hasked.accepted.trans (h.accepted builder hbuilder)
  have hfresh : point.builder? = none → w.accepted = 0 :=
    fun hnone ↦ hasked.accepted.trans (h.fresh hnone)
  -- the two ways to go on to a point differ in what becomes of the token
  rcases examine_passes haccepted hfresh hexamine with
    ⟨rfl, hend, hline, hbuilder⟩ |
    ⟨line, builder, hline, hoff, rfl, hscanner, hpulled, hpending, hcount⟩
  · -- the token is settled
    have hsettle : settle settled token w' = settled ++ [token] := by rw [settle, hasked.pending]
    rw [hsettle]
    refine ⟨hasked.ahead, ?_, ?_, ?_, ?_, ?_, ?_⟩
    · rw [hasked.pulled, hasked.pending, Option.toList_none, List.append_nil]
    · intro other hother
      rcases List.mem_append.1 hother with hother | hother
      · exact h.unended other hother
      · rwa [List.mem_singleton.1 hother]
    · cases next with
      | header => cases hline
      | instructions => cases hline
      | headerEnd => exact hasked.pending
      | instruction => exact hasked.pending
    · intro line hline'
      exact ⟨settled, token, rfl, Option.some.inj (hline.symm.trans hline')⟩
    · exact hbuilder ▸ haccepted
    · exact hbuilder ▸ hfresh
  · -- the token is held over
    have hsettle : settle settled token w' = settled := by rw [settle, hpending]
    obtain ⟨before, last, hsettled, rfl⟩ := h.line line hline
    rw [hsettle]
    refine ⟨?_, ?_, h.unended, ⟨token, hpending, hasked.later hsettled hoff⟩, nofun, ?_, nofun⟩
    · rw [hpulled, hscanner, hasked.ahead]
    · rw [hpulled, hpending, hasked.pulled]
      rfl
    · rintro _ ⟨⟩
      exact hcount

/-! ### Whole runs

By induction on the steps. The last step is looked at again, since it leads to no point: what it has
pulled is all that a run ever pulls beyond what is settled. -/

/-- It is true at every point of a run. -/
theorem Reaches.heldOver (h : Reaches source point v settled) :
    HeldOver source point v settled := by
  induction h with
  | start => exact ⟨rfl, rfl, by simp, rfl, nofun, nofun, fun _ ↦ rfl⟩
  | step _ hask hexamine ih => exact ih.step hask hexamine

/-- From every point of a run the steps end as the run does. -/
theorem Reaches.runs (h : Reaches source point v settled) :
    point.Runs v (runFrom .header (ofSource source)) := by
  induction h with
  | start => exact runs_iff.2 rfl
  | step _ hask hexamine ih =>
    rw [runs_iff_step, step_of_ask_ok hask, hexamine] at ih
    exact ih

/-- A step leaves one more result pulled than there are tokens settled. -/
theorem HeldOver.pulled_of_step (h : HeldOver source point v settled) :
    ∃ last, point.step.Yields v (fun _ w ↦ w.pulled.toList = settled.map .ok ++ [last])
      fun _ w ↦ w.pulled.toList = settled.map .ok ++ [last] := by
  rcases hask : point.ask v with ⟨token, w⟩ | ⟨failure, w⟩
  · have hpulled : w.pulled.toList = settled.map .ok ++ [.ok token] := by
      rw [(h.asked hask).pulled, List.map_append, List.map_singleton]
    refine ⟨.ok token, ?_⟩
    rw [Validation.Yields, step_of_ask_ok hask]
    exact (examine_pulled point token w.pulled w rfl).imp (fun _ _ hw ↦ hw ▸ hpulled)
      (fun _ _ hw ↦ hw ▸ hpulled)
  · refine ⟨.error failure, ?_⟩
    rw [Validation.Yields, step_of_ask_error hask]
    exact (h.pulled_of_ask_error hask).1

/-- The outcome of the step that ends a run with the result. -/
def lastStep : EStateM.Result Failure Validator Document →
    EStateM.Result Failure Validator (Point ⊕ Document)
  | .ok document w => .ok (.inr document) w
  | .error failure w => .error failure w

/-- Where the steps end, the step of the last point decides. -/
theorem Runs.exists_step {result : EStateM.Result Failure Validator Document}
    (hruns : point.Runs v result) (h : Reaches source point v settled) :
    ∃ point' v' settled', Reaches source point' v' settled' ∧ point'.step v' = lastStep result := by
  induction hruns generalizing settled with
  | failed hstep => exact ⟨_, _, settled, h, hstep⟩
  | finished hstep => exact ⟨_, _, settled, h, hstep⟩
  | passed hstep _ ih =>
    obtain ⟨token, w, hask, hexamine⟩ := Validation.bind_eq_ok_iff.1 hstep
    exact ih (h.step hask hexamine)

/-- All that has been pulled when a run ends. -/
def pulledBy : EStateM.Result Failure Validator Document → List (Except Failure Token)
  | .ok _ w => w.pulled.toList
  | .error _ w => w.pulled.toList

/-- Where the steps end, one more result has been pulled than there are tokens settled at the last
point. -/
theorem Runs.exists_last {result : EStateM.Result Failure Validator Document}
    (hruns : point.Runs v result) (h : Reaches source point v settled) :
    ∃ point' v' settled' last, Reaches source point' v' settled' ∧
      pulledBy result = settled'.map .ok ++ [last] := by
  obtain ⟨point', v', settled', hreaches, hstep⟩ := hruns.exists_step h
  obtain ⟨last, hlast⟩ := hreaches.heldOver.pulled_of_step
  refine ⟨point', v', settled', last, hreaches, ?_⟩
  rw [Validation.Yields, hstep] at hlast
  rcases result with ⟨document, w⟩ | ⟨failure, w⟩ <;> exact hlast

end Point

/-- Nothing is diagnosed with instructions out of sequence. -/
theorem Diagnosis.ne_outOfSequence {results : List (Except Failure Token)} {failure : Failure}
    {message : String} (h : Diagnosis results failure message) {refusal : OutOfSequence} :
    failure ≠ .outOfSequence refusal := by
  cases h <;> nofun

namespace Validator

open Point

/-- No run fails because instructions were handed over out of sequence. -/
theorem ne_outOfSequence {source : String} {refusal : OutOfSequence} :
    validate source ≠ .error (.outOfSequence refusal) := by
  intro h
  exact (diagnosis_of_error h).ne_outOfSequence rfl

/-- All that a run has pulled is settled at its last point, but for the result that decides. -/
theorem exists_last_pulled (source : String) :
    ∃ point v settled last, Reaches source point v settled ∧
      (run source).pulled = settled.map .ok ++ [last] := by
  have hpulled : (run source).pulled = pulledBy (runFrom .header (ofSource source)) := by
    rw [run]
    rcases runFrom .header (ofSource source) with ⟨document, w⟩ | ⟨failure, w⟩ <;> rfl
  rw [hpulled]
  exact Runs.exists_last (runs_iff.2 rfl) .start

/-- An accepted program is scanned to its end, which comes once and last. -/
theorem pulled_of_ok {source : String} {document : Document} (h : validate source = .ok document) :
    ∃ tokens line, (run source).pulled = (tokens ++ [⟨.endOfStream, line⟩]).map .ok ∧
      ∀ token ∈ tokens, token.isEnd = false := by
  obtain ⟨point, v, settled, last, hreaches, hlast⟩ := exists_last_pulled source
  obtain ⟨line, hscan⟩ := scan_eq_dropLast source
  rw [← (run_outcome_of_ok h).1, hlast] at hscan
  obtain rfl := List.singleton_inj.1 (List.append_inj' hscan rfl).2
  refine ⟨settled, line, ?_, hreaches.heldOver.unended⟩
  rw [hlast, List.map_append, List.map_singleton]

/-- **Nothing is lost and nothing repeated.** At every point of a run the results of the scan are
settled in order, but for one token that is held over between instructions; what is asked for there
is the next result; and the builder takes an instruction under the next number. When the run ends,
just the result that decides has not been settled, and it is the next one of the scan. So no run
fails because of a number, and a successful one ends with the end of the stream, pulled once. -/
theorem hold_over (source : String) :
    (∀ point v settled, Reaches source point v settled →
      HeldOver source point v settled ∧
      point.Runs v (runFrom .header (ofSource source)) ∧
      (∀ token w, point.ask v = .ok token w → (settled ++ [token]).map .ok <+: scan source) ∧
      (∀ failure w, point.ask v = .error failure w →
        settled.map .ok ++ [.error failure] <+: scan source) ∧
      ∀ builder, point.builder? = some builder → ∀ opcode operands,
        ∃ longer, DocumentBuilder.append (v.accepted + 1) opcode operands builder = .ok () longer) ∧
    (∃ point v settled last, Reaches source point v settled ∧
      (run source).pulled = settled.map .ok ++ [last] ∧
      settled.map .ok ++ [last] <+: scan source) ∧
    (∀ refusal, validate source ≠ .error (.outOfSequence refusal)) ∧
    ∀ document, validate source = .ok document →
      ∃ tokens line, (run source).pulled = (tokens ++ [⟨.endOfStream, line⟩]).map .ok ∧
        ∀ token ∈ tokens, token.isEnd = false := by
  refine ⟨fun point v settled h ↦ ?_, ?_, fun refusal ↦ ne_outOfSequence,
    fun document ↦ pulled_of_ok⟩
  · have hheld := h.heldOver
    refine ⟨hheld, h.runs, fun token w hask ↦ (hheld.asked hask).prefix_scan,
      fun failure w hask ↦ ?_, fun builder hbuilder opcode operands ↦ ?_⟩
    · obtain ⟨hpulled, hprefix⟩ := hheld.pulled_of_ask_error hask
      rwa [hpulled] at hprefix
    · have hnumber : v.accepted + 1 = builder.nextOrder :=
        congrArg (· + 1) (hheld.accepted _ hbuilder)
      exact ⟨_, DocumentBuilder.append_of_eq hnumber⟩
  · obtain ⟨point, v, settled, last, hreaches, hpulled⟩ := exists_last_pulled source
    exact ⟨point, v, settled, last, hreaches, hpulled, hpulled ▸ pulled_prefix_scan source⟩

end Validator

end IppCode
