import IppCode.Proofs.Scan.Spans
import IppCode.Proofs.Validation.Progress
import IppCode.Proofs.Validation.Wording

/-!
# Traces

What is reported of tokens that are pulled one after the other. Each is reported where it is found.
The line behind which it stands is reported next, if it is complete: the header, or an instruction
with all of its operands (`Ending`). So the first token of a line is reported before the instruction
that it shows to be complete, and `Trace` takes the tokens one by one.

A trace knows of no validator. Whether a line is complete is read off the tokens in front, and which
tokens are behind it off their lines. This is why a trace can say that an instruction is reported if
and only if it is complete: a run that forgot one, or reported one twice, would have no trace.

All else follows by induction along a trace. The instructions are numbered without a gap
(`Trace.map_number`), and they are as many as there are places among the tokens where a complete
instruction ends before a token that is not on its line (`Trace.exists_places`). Every event makes
the line of the log that is listed for it, with its level and its origin (`Trace.logged`).
-/

namespace IppCode

/-! ### Complete lines

What the tokens in front of a place can end with, and what is then reported. -/

/-- The token is not on the line, where all tokens are on that line or behind it. -/
def Token.IsBehind (token : Token) (line : Nat) : Prop :=
  token.isEnd = true ∨ line < token.line

/-- The tokens end with a complete line, behind `count` instructions. This is what is reported of
the line, and how many instructions there are with it. -/
inductive Ending (count : Nat) : List Token → Nat → Event → Nat → Prop
  /-- The header is alone. -/
  | header (line : Nat) : Ending count [⟨.header, line⟩] line (.headerAccepted line) count
  /-- The opcode has all of its operands, and each of them fits. -/
  | instruction (before : List Token) (opcode : Opcode) {args : List Token} {line : Nat}
      (hargs : FitAll line opcode.operandKinds args) :
    Ending count (before ++ ⟨.opcode opcode, line⟩ :: args) line
      (.instructionAccepted line (count + 1) opcode args.length) (count + 1)

/-- What is reported of the tokens of the source, and how many instructions there are. -/
inductive Trace (source : String) : List Token → List Event → Nat → Prop
  /-- Before the first token nothing is reported. -/
  | nil : Trace source [] [] 0
  /-- Of a token that stands behind no complete line there is nothing to report but itself. -/
  | within {tokens : List Token} {token : Token} {events : List Event} {event : Event}
      {count : Nat} (h : Trace source tokens events count)
      (hreported : Reported source token event)
      (hline : ∀ line report count', Ending count tokens line report count' →
        ¬ token.IsBehind line) :
    Trace source (tokens ++ [token]) (events ++ [event]) count
  /-- Otherwise the line is reported next. -/
  | behind {tokens : List Token} {token : Token} {events : List Event} {event report : Event}
      {line count count' : Nat} (h : Trace source tokens events count)
      (hreported : Reported source token event)
      (hending : Ending count tokens line report count') (hbehind : token.IsBehind line) :
    Trace source (tokens ++ [token]) (events ++ [event, report]) count'

/-- The tokens end with a complete instruction, and the token behind them is not on its line. -/
def EndsBefore (tokens : List Token) (next : Token) : Prop :=
  ∃ before opcode line args, tokens = before ++ ⟨.opcode opcode, line⟩ :: args ∧
    FitAll line opcode.operandKinds args ∧ next.IsBehind line

/-- There are more than `n` tokens, and the first `n` of them end so before the next. -/
def CompleteAt (tokens : List Token) (n : Nat) : Prop :=
  ∃ next, tokens[n]? = some next ∧ EndsBefore (tokens.take n) next

/-- The token that the event reports. -/
def Event.token? : Event → Option Token
  | tokenFound line _ _ kind => some ⟨kind, line⟩
  | endReached line => some ⟨.endOfStream, line⟩
  | _ => none

/-- The instruction that the event reports: its number, its opcode and how many operands it has. -/
def Event.instruction? : Event → Option (Nat × Opcode × Nat)
  | instructionAccepted _ number opcode operands => some (number, opcode, operands)
  | _ => none

/-! ### Opcodes among tokens

No operand is an opcode, so the last opcode among tokens is where their last instruction begins. -/

section

variable {tokens before before' args args' : List Token} {token last : Token}
  {opcode opcode' : Opcode} {line line' count count' : Nat} {report : Event} {kind : OperandKind}
  {kinds kinds' : List OperandKind}

/-- Each operand is on the line, and of some kind. -/
theorem FitAll.of_mem (h : FitAll line kinds args) {arg : Token} (harg : arg ∈ args) :
    arg.line = line ∧ ∃ kind, Fits kind arg.kind := by
  induction h with
  | nil => cases harg
  | cons hfirst _ ih =>
    rcases List.mem_cons.1 harg with rfl | hmem
    · exact ⟨hfirst.1, _, hfirst.2⟩
    · exact ih hmem

/-- No operand is an opcode. -/
theorem FitAll.ne_opcode (h : FitAll line kinds args) {arg : Token} (harg : arg ∈ args)
    (opcode : Opcode) : arg.kind ≠ .opcode opcode := by
  intro hkind
  obtain ⟨-, kind, hfits⟩ := h.of_mem harg
  rw [hkind] at hfits
  cases hfits

/-- Of two opcodes that have only operands behind them each is the other. -/
theorem eq_of_opcode (hargs : FitAll line kinds args) (hargs' : FitAll line' kinds' args')
    (h : before ++ ⟨.opcode opcode, line⟩ :: args = before' ++ ⟨.opcode opcode', line'⟩ :: args') :
    opcode = opcode' ∧ args = args' := by
  rcases List.append_eq_append_iff.1 h with ⟨between, -, heq⟩ | ⟨between, -, heq⟩
  · rcases between with - | ⟨other, between⟩
    · cases heq
      exact ⟨rfl, rfl⟩
    · have hmem : ⟨.opcode opcode', line'⟩ ∈ args := by
        rw [(List.cons.inj heq).2]
        exact List.mem_append_right _ List.mem_cons_self
      exact absurd rfl (hargs.ne_opcode hmem opcode')
  · rcases between with - | ⟨other, between⟩
    · cases heq
      exact ⟨rfl, rfl⟩
    · have hmem : ⟨.opcode opcode, line⟩ ∈ args' := by
        rw [(List.cons.inj heq).2]
        exact List.mem_append_right _ List.mem_cons_self
      exact absurd rfl (hargs'.ne_opcode hmem opcode)

/-! ### Endings

A list of tokens ends with a complete line in at most one way, and does not where an operand is
missing. -/

theorem not_ending_nil : ¬ Ending count [] line report count' := by
  intro h
  generalize hnil : ([] : List Token) = tokens at h
  cases h with
  | header => cases hnil
  | instruction => simp at hnil

/-- Tokens do not end with a complete line where an operand is missing. -/
theorem not_ending_of_missing (hkinds : opcode.operandKinds = kinds ++ kind :: kinds')
    (hargs : FitAll line kinds args) :
    ¬ Ending count (before ++ ⟨.opcode opcode, line⟩ :: args) line' report count' := by
  intro h
  generalize htokens : before ++ ⟨.opcode opcode, line⟩ :: args = tokens at h
  cases h with
  | header =>
    rcases before with - | ⟨other, before⟩ <;> simp at htokens
  | instruction before' opcode' hargs' =>
    obtain ⟨rfl, rfl⟩ := eq_of_opcode hargs hargs' htokens
    have hlength := hargs.length_eq.trans hargs'.length_eq.symm
    rw [hkinds] at hlength
    simp at hlength

/-- The line is that of the last token. -/
theorem Ending.line_eq (h : Ending count tokens line report count')
    (hlast : last ∈ tokens.getLast?) : last.line = line := by
  cases h with
  | header =>
    obtain rfl := Option.some.inj hlast
    rfl
  | instruction before opcode hargs =>
    rw [List.getLast?_append_of_ne_nil _ (List.cons_ne_nil _ _)] at hlast
    rcases List.mem_cons.1 (List.mem_of_getLast? hlast) with rfl | hmem
    · rfl
    · exact (hargs.of_mem hmem).1

theorem Ending.span?_eq (h : Ending count tokens line report count') : report.span? = none := by
  cases h <;> rfl

theorem Ending.logged (h : Ending count tokens line report count') :
    report.Logged report.level report.origin.path report.message := by
  cases h with
  | header line => exact .headerAccepted line
  | instruction _ opcode => exact .instructionAccepted line (count + 1) opcode _

/-! ### Along a trace

First what one more token adds, then by induction what a whole trace has. -/

/-- One more token adds the place in front of it, if a complete instruction ends there. -/
theorem completeAt_concat {n : Nat} :
    CompleteAt (tokens ++ [token]) n ↔
      CompleteAt tokens n ∨ n = tokens.length ∧ EndsBefore tokens token := by
  rcases Nat.lt_trichotomy n tokens.length with hlt | rfl | hlt
  · rw [CompleteAt, CompleteAt, List.getElem?_append_left hlt,
      List.take_append_of_le_length (Nat.le_of_lt hlt), or_iff_left fun h ↦ Nat.ne_of_lt hlt h.1]
  · simp [CompleteAt]
  · have hnone : (tokens ++ [token])[n]? = none := by simp; omega
    have hnone' : tokens[n]? = none := by simp; omega
    simp [CompleteAt, hnone, hnone', Nat.ne_of_gt hlt]

variable {source : String} {events : List Event} {event : Event}

theorem Reported.token?_eq (h : Reported source token event) : event.token? = some token := by
  cases h <;> rfl

theorem Reported.level_eq (h : Reported source token event) : event.level = .trace := by
  cases h <;> rfl

theorem Reported.instruction?_eq (h : Reported source token event) : event.instruction? = none := by
  cases h <;> rfl

theorem Reported.logged (h : Reported source token event) :
    event.Logged event.level event.origin.path event.message := by
  cases h with
  | word _ hkind => exact .tokenFound _ _ _ (TokenKind.shown_logForm hkind.ne_endOfStream)
  | last => exact .endReached _

namespace Trace

/-- Every token is reported once, in order. -/
theorem filterMap_token? (h : Trace source tokens events count) :
    events.filterMap Event.token? = tokens := by
  induction h with
  | nil => rfl
  | within _ hreported _ ih =>
    rw [List.filterMap_append, ih, List.filterMap_cons_some hreported.token?_eq, List.filterMap_nil]
  | behind _ hreported hending _ ih =>
    rw [List.filterMap_append, ih, List.filterMap_cons_some hreported.token?_eq]
    cases hending <;> rfl

/-- Tokens are reported at one level, and what they complete at another. -/
theorem level_eq (h : Trace source tokens events count) (hevent : event ∈ events) :
    event.level = if event.token?.isSome then .trace else .debug := by
  induction h with
  | nil => cases hevent
  | within _ hreported _ ih =>
    rcases List.mem_append.1 hevent with hevent | hevent
    · exact ih hevent
    · rw [List.mem_singleton.1 hevent, hreported.level_eq, hreported.token?_eq]
      rfl
  | behind _ hreported hending _ ih =>
    rcases List.mem_append.1 hevent with hevent | hevent
    · exact ih hevent
    rcases List.mem_cons.1 hevent with rfl | hevent
    · rw [hreported.level_eq, hreported.token?_eq]
      rfl
    · rw [List.mem_singleton.1 hevent]
      cases hending <;> rfl

/-- Every event makes the line of the log that its wording says. -/
theorem logged (h : Trace source tokens events count) (hevent : event ∈ events) :
    event.Logged event.level event.origin.path event.message := by
  induction h with
  | nil => cases hevent
  | within _ hreported _ ih =>
    rcases List.mem_append.1 hevent with hevent | hevent
    · exact ih hevent
    · exact List.mem_singleton.1 hevent ▸ hreported.logged
  | behind _ hreported hending _ ih =>
    rcases List.mem_append.1 hevent with hevent | hevent
    · exact ih hevent
    rcases List.mem_cons.1 hevent with rfl | hevent
    · exact hreported.logged
    · exact List.mem_singleton.1 hevent ▸ hending.logged

/-- The instructions are numbered without a gap. -/
theorem map_number (h : Trace source tokens events count) :
    (events.filterMap Event.instruction?).map Prod.fst = List.range' 1 count := by
  induction h with
  | nil => rfl
  | within _ hreported _ ih =>
    rw [List.filterMap_append, List.filterMap_cons_none hreported.instruction?_eq,
      List.filterMap_nil, List.append_nil, ih]
  | behind _ hreported hending _ ih =>
    rw [List.filterMap_append, List.filterMap_cons_none hreported.instruction?_eq, List.map_append,
      ih]
    cases hending with
    | header => exact List.append_nil _
    | instruction => rw [List.range'_1_concat, Nat.add_comm 1]; rfl

/-- The instructions are as many as there are places behind a complete one. -/
theorem exists_places (h : Trace source tokens events count) :
    ∃ places : List Nat, places.Pairwise (· < ·) ∧ (∀ n, n ∈ places ↔ CompleteAt tokens n) ∧
      places.length = count := by
  induction h with
  | nil => exact ⟨[], .nil, by simp [CompleteAt], rfl⟩
  | within _ _ hline ih =>
    obtain ⟨places, hsorted, hplaces, hlength⟩ := ih
    refine ⟨places, hsorted, fun n ↦ ?_, hlength⟩
    rw [hplaces, completeAt_concat, or_iff_left]
    rintro ⟨-, before, opcode, line, args, rfl, hargs, hbehind⟩
    exact hline _ _ _ (.instruction before opcode hargs) hbehind
  | @behind _ _ _ _ _ line _ _ _ _ hending hbehind ih =>
    obtain ⟨places, hsorted, hplaces, hlength⟩ := ih
    cases hending with
    | header =>
      refine ⟨places, hsorted, fun n ↦ ?_, hlength⟩
      rw [hplaces, completeAt_concat, or_iff_left]
      rintro ⟨-, before, opcode, line, args, heq, -⟩
      rcases before with - | ⟨other, before⟩ <;> simp at heq
    | @instruction before opcode args _ hargs =>
      refine ⟨places ++ [(before ++ ⟨.opcode opcode, line⟩ :: args).length], ?_, fun n ↦ ?_, ?_⟩
      -- the new place is behind all others, since it is where the tokens end
      · rw [List.pairwise_append]
        refine ⟨hsorted, List.pairwise_singleton _ _, fun n hn last hlast ↦ ?_⟩
        obtain ⟨next, hnext, -⟩ := (hplaces n).1 hn
        rw [List.mem_singleton.1 hlast]
        exact (List.getElem?_eq_some_iff.1 hnext).1
      · rw [List.mem_append, List.mem_singleton, hplaces, completeAt_concat]
        exact or_congr_right (and_iff_left ⟨before, opcode, line, args, rfl, hargs, hbehind⟩).symm
      · rw [List.length_append, hlength]
        rfl

end Trace

end

end IppCode
