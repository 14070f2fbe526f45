import IppCode.Parse
import IppCode.Proofs.Validation.HoldOver
import IppCode.Proofs.Validation.Trace

/-!
# What a run reports

A run reports its tokens where it pulls them, and what they complete where it examines them, one
token later. Taken together this is a trace of the tokens (`Recorded`), wherever the run stands:
behind a step it is the trace with one token more (`Examined`), also if the step fails, since a
failure is not reported. In between, the last token is reported already, and what it completes is
not (`Pulled`). There is one lemma for each kind of point, and `Told.examined` for all.

What a step reports depends on the tokens that are settled on the line it is on, and a point says
only part of that. `Point.Fit` ties the two together: the operands that have been found are as many
as the tokens behind the opcode, and they fit what it calls for so far.

A token that is held over was reported when it was pulled, a round before it is examined. So the
trace runs ahead of what is settled by this token, and is stated with it (`Told`). Where a run fails
on a token that it has pulled, that token is in the trace; where the scanner fails, nothing was
reported of it.

`parseSource_trace` says it of whole runs, with what follows for the spans of the tokens and for the
number of the instructions, and with the line of the log that every event makes.
-/

namespace IppCode

/-- What is reported of an instruction: its number, its opcode and how many operands it has. -/
def Instruction.outline (instruction : Instruction) : Nat × Opcode × Nat :=
  (instruction.order, instruction.opcode, instruction.arguments.length)

theorem Instruction.outline_ofOperands (order : Nat) (opcode : Opcode) (operands : List Operand) :
    (ofOperands order opcode operands).outline = (order, opcode, operands.length) := by
  rw [outline, ofOperands, List.length_map]

theorem Token.not_isBehind_of_isOn {token : Token} {line : Nat} (h : token.isOn line = true) :
    ¬ token.IsBehind line := by
  obtain ⟨hline, hend⟩ := isOn_eq_true_iff.1 h
  rintro (hend' | hlt)
  · simp [hend] at hend'
  · omega

theorem Validation.yields_of_eq_ok {α : Type} {x : Validation α} {v w : Validator} {a : α}
    {post : α → Validator → Prop} {fail : Failure → Validator → Prop} (hx : x v = .ok a w)
    (h : post a w) : x.Yields v post fail := by
  rw [Yields, hx]
  exact h

namespace Point

open Validator

/-- The instructions that were handed over. -/
def handed (point : Point) : List Instruction :=
  (point.builder?.map fun builder ↦ builder.finish.instructions).getD []

/-- The settled tokens are what the point has come to, as far as the line is concerned that has been
begun. -/
def Fit : Point → List Token → Prop
  | header, settled => settled = []
  | headerEnd line, settled => settled = [⟨.header, line⟩]
  | instructions _, _ => True
  | instruction _ line opcode found missing, settled =>
    ∃ before args done, settled = before ++ ⟨.opcode opcode, line⟩ :: args ∧
      opcode.operandKinds = done ++ missing ∧ FitAll line done args ∧ found.length = args.length

/-- What was reported is the trace of the tokens, with the instructions among it. -/
structure Recorded (source : String) (tokens : List Token) (instructions : List Instruction)
    (v : Validator) : Prop where
  /-- What was reported of the tokens and their lines, in the order in which it was reported. -/
  trace : Trace source tokens v.events.toList v.accepted
  /-- What was reported of words is in step with the scanner. -/
  follows : v.scanner.Follows source v.events.toList
  /-- The instructions that were reported are those that were handed over. -/
  handed : v.events.toList.filterMap Event.instruction? = instructions.map Instruction.outline

/-- The token was reported last, behind the trace of the settled tokens. What it completes has yet
to be reported. -/
structure Pulled (source : String) (settled : List Token) (instructions : List Instruction)
    (token : Token) (w : Validator) : Prop where
  /-- The token has its event, and before that everything is reported that the settled tokens give
  rise to. -/
  reported : ∃ events event, w.events.toList = events ++ [event] ∧ Reported source token event ∧
    Trace source settled events w.accepted
  /-- The event of the token counts with those before it. -/
  follows : w.scanner.Follows source w.events.toList
  /-- No instruction is reported with a token. -/
  handed : w.events.toList.filterMap Event.instruction? = instructions.map Instruction.outline

/-- What is true of the record at every point of a run. -/
structure Told (source : String) (point : Point) (v : Validator) (settled : List Token) : Prop where
  /-- The token that is held over is reported with the settled ones. -/
  recorded : Recorded source (settled ++ v.pending.toList) point.handed v
  /-- What has been settled on the line that has been begun. -/
  fit : point.Fit settled

variable {source : String} {point next : Point} {v w w' : Validator} {token held : Token}
  {settled tokens : List Token} {instructions : List Instruction} {line : Nat}
  {report : Event} {builder : DocumentBuilder} {opcode : Opcode} {found : List Operand}
  {kind : OperandKind} {kinds : List OperandKind}

/-! ### Asking for a token

Asking adds the event of the token to what was reported, or nothing if the token was held over. What
the token completes is added next, and is found from the settled tokens. -/

/-- A token that is pulled is reported. -/
theorem Told.pulled (h : Told source point v settled) (hheld : HeldOver source point v settled)
    (hpending : v.pending = none) (hask : point.ask v = .ok token w) :
    Pulled source settled point.handed token w := by
  have hopen := hheld.unfinished hpending
  rcases hheld.ask_eq with ⟨-, hpull⟩ | ⟨held, hheld, -⟩
  · obtain ⟨hresult, rfl⟩ := pull_eq_ok_iff.1 (hpull.symm.trans hask)
    obtain ⟨event, hevent, hreported, hfollows⟩ := h.recorded.follows.read hopen hresult
    have hevents : (v.record v.scanner.read).events.toList = v.events.toList ++ [event] := by
      simp [record, hevent]
    have htrace := h.recorded.trace
    rw [hpending, Option.toList_none, List.append_nil] at htrace
    refine ⟨⟨v.events.toList, event, hevents, hreported, htrace⟩, hevents ▸ hfollows, ?_⟩
    rw [hevents, List.filterMap_append, h.recorded.handed,
      List.filterMap_cons_none hreported.instruction?_eq, List.filterMap_nil, List.append_nil]
  · rw [hpending] at hheld
    cases hheld

/-- A token that was held over has been reported. -/
theorem Told.taken (h : Told source point v settled) (hheld : HeldOver source point v settled)
    (hpending : v.pending = some held) (hask : point.ask v = .ok token w) :
    Recorded source (settled ++ [token]) point.handed w := by
  rcases hheld.ask_eq with ⟨hnone, -⟩ | ⟨held', hheld', htake⟩
  · rw [hpending] at hnone
    cases hnone
  · cases htake.symm.trans hask
    have hrecorded := h.recorded
    rw [hheld'] at hrecorded
    exact ⟨hrecorded.trace, hrecorded.follows, hrecorded.handed⟩

/-- Behind no complete line, or on it, there is nothing more to report. -/
theorem Pulled.within (h : Pulled source settled instructions token w)
    (hline : ∀ line report count, Ending w.accepted settled line report count →
      ¬ token.IsBehind line) :
    Recorded source (settled ++ [token]) instructions w := by
  obtain ⟨events, event, hevents, hreported, htrace⟩ := h.reported
  refine ⟨?_, h.follows, h.handed⟩
  rw [hevents]
  exact htrace.within hreported hline

/-- Behind a complete line this is reported next, with the instruction that it is, if any. -/
theorem Pulled.behind (h : Pulled source settled instructions token w) (w' : Validator)
    (more : List Instruction)
    (hending : Ending w.accepted settled line report w'.accepted) (hbehind : token.IsBehind line)
    (hevents : w'.events = w.events.push report) (hscanner : w'.scanner = w.scanner)
    (hmore : report.instruction?.toList = more.map Instruction.outline) :
    Recorded source (settled ++ [token]) (instructions ++ more) w' := by
  obtain ⟨events, event, hevents', hreported, htrace⟩ := h.reported
  refine ⟨?_, ?_, ?_⟩
  · rw [hevents, Array.toList_push, hevents', List.append_assoc]
    exact htrace.behind hreported hending hbehind
  · rw [hscanner, hevents, Array.toList_push]
    exact h.follows.concat hending.span?_eq
  · rw [hevents, Array.toList_push, List.filterMap_append, h.handed, List.map_append, ← hmore]
    rcases hreport : report.instruction? with - | outline
    · rw [List.filterMap_cons_none hreport]
      rfl
    · rw [List.filterMap_cons_some hreport]
      rfl

/-- On the line of the last settled token there is nothing more to report. -/
theorem Pulled.on (h : Pulled source settled instructions token w)
    (hsettled : ∃ before last, settled = before ++ [last] ∧ last.line = line)
    (hon : token.isOn line = true) : Recorded source (settled ++ [token]) instructions w := by
  obtain ⟨before, last, rfl, rfl⟩ := hsettled
  refine h.within fun line report count hending ↦ ?_
  rw [← hending.line_eq (by simp : last ∈ (before ++ [last]).getLast?)]
  exact Token.not_isBehind_of_isOn hon

/-- A token that is not on the line of the last settled token is behind it. -/
theorem Asked.isBehind (h : Asked source settled token v w)
    (hsettled : ∃ before last, settled = before ++ [last] ∧ last.line = line)
    (hoff : token.isOn line = false) : token.IsBehind line := by
  obtain ⟨before, last, rfl, rfl⟩ := hsettled
  exact (h.later rfl hoff).imp_right fun hlater ↦ hlater last (by simp)

/-! ### One step

The points are taken one after the other. At each of them it is known whether the settled tokens end
with a complete line, and this decides which of the two rules of a trace applies. -/

/-- What is true where a step leads that does not fail. -/
def Passed (source : String) (point : Point) (settled : List Token) (token : Token) :
    Point ⊕ Document → Validator → Prop
  | .inl next, w => Told source next w (settle settled token w)
  | .inr document, w => document.instructions = point.handed ∧
      ∃ v, Recorded source (settled ++ [token]) point.handed v ∧
        w.events = v.events.push (.programAccepted v.accepted)

theorem told_of_settled (h : Recorded source (settled ++ [token]) next.handed w)
    (hpending : w.pending = none) (hfit : next.Fit (settled ++ [token])) :
    Told source next w (settle settled token w) := by
  have hsettle : settle settled token w = settled ++ [token] := by rw [settle, hpending]
  rw [hsettle]
  refine ⟨?_, hfit⟩
  rwa [hpending, Option.toList_none, List.append_nil]

theorem told_of_held (h : Recorded source (settled ++ [token]) next.handed w)
    (hpending : w.pending = some token) (hfit : next.Fit settled) :
    Told source next w (settle settled token w) := by
  have hsettle : settle settled token w = settled := by rw [settle, hpending]
  rw [hsettle]
  refine ⟨?_, hfit⟩
  rwa [hpending]

/-- Behind a step all tokens are reported, and what they complete, whether it fails or not. -/
def Examined (source : String) (point : Point) (settled : List Token) (token : Token)
    (w : Validator) : Prop :=
  (point.examine token).Yields w (Passed source point settled token)
    fun _ w' ↦ Recorded source (settled ++ [token]) point.handed w'

/-- Nothing stands in front of the first token. -/
theorem Told.examined_header (h : Told source .header v settled)
    (hheld : HeldOver source .header v settled) (hask : Point.header.ask v = .ok token w) :
    Examined source .header settled token w := by
  obtain rfl : settled = [] := h.fit
  have hrecorded := (h.pulled hheld hheld.pending hask).within
    fun _ _ _ hending ↦ absurd hending not_ending_nil
  rw [Examined, examine]
  rcases hkind : token.kind with - | op | _ | _ | _ | _ | -
  case header =>
    refine told_of_settled hrecorded (hheld.asked hask).pending ?_
    obtain ⟨_, line⟩ := token
    obtain rfl := hkind
    rfl
  all_goals exact hrecorded

/-- The first token behind the line of the header completes it. -/
theorem Told.examined_headerEnd (h : Told source (.headerEnd line) v settled)
    (hheld : HeldOver source (.headerEnd line) v settled)
    (hask : (Point.headerEnd line).ask v = .ok token w) :
    Examined source (.headerEnd line) settled token w := by
  have hpulled := h.pulled hheld hheld.pending hask
  rw [Examined, examine]
  split
  · exact hpulled.on (hheld.line line rfl) ‹_›
  · rename_i hoff
    have hbehind := (hheld.asked hask).isBehind (hheld.line line rfl) (by simpa using hoff)
    obtain rfl : settled = [⟨.header, line⟩] := h.fit
    -- the header makes no instruction, so nothing is handed over with it
    have hrecorded := hpulled.behind
      { w with pending := some token, events := w.events.push (.headerAccepted line) } []
      (.header line) hbehind rfl rfl rfl
    exact told_of_held hrecorded rfl trivial

/-- The token that begins a line was reported when it ended the one in front of it. -/
theorem Told.examined_instructions (h : Told source (.instructions builder) v settled)
    (hheld : HeldOver source (.instructions builder) v settled)
    (hask : (Point.instructions builder).ask v = .ok token w) :
    Examined source (.instructions builder) settled token w := by
  obtain ⟨held, hpending, -⟩ := hheld.pending
  have hrecorded := h.taken hheld hpending hask
  rw [Examined, examine]
  rcases hkind : token.kind with - | op | _ | _ | _ | _ | -
  case opcode =>
    refine told_of_settled hrecorded (hheld.asked hask).pending
      ⟨settled, [], [], ?_, rfl, .nil, rfl⟩
    obtain ⟨_, line⟩ := token
    obtain rfl := hkind
    rfl
  case endOfStream =>
    exact ⟨rfl, w, hrecorded, rfl⟩
  all_goals exact hrecorded

/-- The first token behind an instruction with all of its operands completes it. -/
theorem Told.examined_complete
    (h : Told source (.instruction builder line opcode found []) v settled)
    (hheld : HeldOver source (.instruction builder line opcode found []) v settled)
    (hask : (Point.instruction builder line opcode found []).ask v = .ok token w) :
    Examined source (.instruction builder line opcode found []) settled token w := by
  have hpulled := h.pulled hheld hheld.pending hask
  have hasked := hheld.asked hask
  have hcount : w.accepted = builder.instructions.size :=
    hasked.accepted.trans (hheld.accepted builder rfl)
  rw [Examined, examine]
  split
  · exact hpulled.on (hheld.line line rfl) ‹_›
  · rename_i hoff
    have hbehind := hasked.isBehind (hheld.line line rfl) (by simpa using hoff)
    obtain ⟨before, args, done, rfl, hkinds, hargs, hfound⟩ := h.fit
    rw [List.append_nil] at hkinds
    have hending : Ending w.accepted (before ++ ⟨.opcode opcode, line⟩ :: args) line
        (.instructionAccepted line (w.accepted + 1) opcode found.length) (w.accepted + 1) :=
      hfound ▸ .instruction before opcode (hkinds ▸ hargs)
    have hrecorded := hpulled.behind
      { w with
        pending := some token
        accepted := w.accepted + 1
        events := w.events.push
          (.instructionAccepted line (w.accepted + 1) opcode found.length) }
      [.ofOperands (w.accepted + 1) opcode found] hending hbehind rfl rfl (by
        rw [List.map_singleton, Instruction.outline_ofOperands]
        rfl)
    -- the builder has the instruction at its end, and so it is the last one handed over
    have hhanded : (instructions
        (builder.push (.ofOperands (w.accepted + 1) opcode found))).handed =
          builder.instructions.toList ++ [.ofOperands (w.accepted + 1) opcode found] :=
      Array.toList_push
    refine Validation.yields_of_eq_ok (Validation.bind_eq_ok_iff.2 ⟨(), _, rfl,
      Validation.bind_eq_ok_iff.2 ⟨_, _, submit_eq hcount, rfl⟩⟩) (told_of_held ?_ rfl trivial)
    rw [hhanded]
    exact hrecorded

/-- Where an operand is missing, the next token completes nothing. -/
theorem Told.examined_missing
    (h : Told source (.instruction builder line opcode found (kind :: kinds)) v settled)
    (hheld : HeldOver source (.instruction builder line opcode found (kind :: kinds)) v settled)
    (hask : (Point.instruction builder line opcode found (kind :: kinds)).ask v = .ok token w) :
    Examined source (.instruction builder line opcode found (kind :: kinds)) settled token w := by
  obtain ⟨before, args, done, rfl, hkinds, hargs, hfound⟩ := h.fit
  have hrecorded := (h.pulled hheld hheld.pending hask).within fun _ _ _ hending ↦
    absurd hending (not_ending_of_missing hkinds hargs)
  rw [Examined, examine]
  split
  · rename_i hon
    obtain ⟨hline, -⟩ := Token.isOn_eq_true_iff.1 hon
    rcases hoperand : Operand.ofToken (found.length + 1) kind token.kind with fault | operand
    · exact hrecorded
    · refine told_of_settled hrecorded (hheld.asked hask).pending
        ⟨before, args ++ [token], done ++ [kind], ?_, ?_, ?_, ?_⟩
      · rw [List.append_assoc, List.cons_append]
      · rw [hkinds, List.append_assoc, List.singleton_append]
      · exact hargs.concat hline (fits_iff.2 ⟨operand, hoperand⟩)
      · rw [List.length_append, List.length_append, hfound]
        rfl
  · exact hrecorded

theorem Told.examined (h : Told source point v settled) (hheld : HeldOver source point v settled)
    (hask : point.ask v = .ok token w) : Examined source point settled token w := by
  cases point with
  | header => exact h.examined_header hheld hask
  | headerEnd line => exact h.examined_headerEnd hheld hask
  | instructions builder => exact h.examined_instructions hheld hask
  | instruction builder line opcode found missing =>
    cases missing with
    | nil => exact h.examined_complete hheld hask
    | cons kind kinds => exact h.examined_missing hheld hask

/-! ### Whole runs

By induction on the steps, and then the last step by itself, which may fail or finish the document.
In both cases what was reported up to then is a trace. -/

/-- The record tells of every point of a run. -/
theorem Reaches.told (h : Reaches source point v settled) : Told source point v settled := by
  induction h with
  | start => exact ⟨⟨.nil, Scanner.follows_ofSource source, rfl⟩, rfl⟩
  | step h hask hexamine ih =>
    have hpassed := ih.examined h.heldOver hask
    rw [Examined, Validation.Yields, hexamine] at hpassed
    exact hpassed

/-- The instructions that were handed over have been counted. -/
theorem Recorded.accepted_eq (h : Recorded source tokens instructions v) :
    v.accepted = instructions.length := by
  have hlength := congrArg List.length h.trace.map_number
  rwa [h.handed, List.length_map, List.length_map, List.length_range', eq_comm] at hlength

/-- A run that ends with the result has pulled the tokens, and no more than a failure behind them.
It has reported what was recorded in `w`, and that the program is accepted if it is. -/
def Concludes (point : Point) (tokens : List Token) (w : Validator) :
    EStateM.Result Failure Validator Document → Prop
  | .ok document v => document.instructions = point.handed ∧ v.pulled.toList = tokens.map .ok ∧
      v.events.toList = w.events.toList ++ [.programAccepted w.accepted]
  | .error failure v => (v.pulled.toList = tokens.map .ok ∨
      v.pulled.toList = tokens.map .ok ++ [.error failure]) ∧ v.events.toList = w.events.toList

/-- Where a run ends, the trace is that of all tokens that were pulled. -/
theorem Told.ends (h : Told source point v settled) (hheld : HeldOver source point v settled)
    {result : EStateM.Result Failure Validator Document} (hstep : point.step v = lastStep result) :
    ∃ tokens w, Recorded source tokens point.handed w ∧
      (∀ token ∈ tokens.dropLast, token.isEnd = false) ∧ point.Concludes tokens w result := by
  rcases hask : point.ask v with ⟨token, w⟩ | ⟨failure, w⟩
  · have hasked := (hheld.asked hask).pulled
    have hpulled := examine_pulled point token w.pulled w rfl
    have hexamined := h.examined hheld hask
    rw [step_of_ask_ok hask] at hstep
    rw [Examined] at hexamined
    rw [Validation.Yields, hstep] at hpulled hexamined
    rcases result with ⟨document, v'⟩ | ⟨failure, v'⟩
    · have hpulled : v'.pulled = w.pulled := hpulled
      obtain ⟨hdocument, u, hrecorded, hevents⟩ := hexamined
      refine ⟨settled ++ [token], u, hrecorded, ?_, hdocument, hpulled ▸ hasked, ?_⟩
      · simpa using hheld.unended
      · rw [hevents, Array.toList_push]
    · have hpulled : v'.pulled = w.pulled := hpulled
      exact ⟨settled ++ [token], v', hexamined, by simpa using hheld.unended,
        .inl (hpulled ▸ hasked), rfl⟩
  · rw [step_of_ask_error hask] at hstep
    rcases result with ⟨document, v'⟩ | ⟨failure', v'⟩
    · cases hstep
    · cases hstep
      rcases hheld.ask_eq with ⟨hpending, hpull⟩ | ⟨held, -, htake⟩
      · obtain ⟨hresult, rfl⟩ := pull_eq_error_iff.1 (hpull.symm.trans hask)
        have hrecorded := h.recorded
        rw [hpending, Option.toList_none, List.append_nil] at hrecorded
        refine ⟨settled, v, hrecorded, ?_, .inr (hheld.pulled_of_ask_error hask).1, ?_⟩
        · exact fun token htoken ↦ hheld.unended token (List.mem_of_mem_dropLast htoken)
        · simp [record, Scanner.event?_of_read_eq_error hresult]
      · cases htake.symm.trans hask

end Point

namespace Validator

open Point

/-- The events are a true record of the tokens, which were pulled one after the other, and of the
instructions among them. -/
structure Faithful (source : String) (tokens : List Token) (events : List Event) (count : Nat) :
    Prop where
  /-- Tokens are reported where they are found, and what they complete is reported next. -/
  trace : Trace source tokens events count
  /-- The tokens come first in the scan, up to the end of the stream at most. -/
  scanned : tokens.map .ok <+: scan source
  /-- The end is the last token, if it was pulled at all. -/
  unended : ∀ token ∈ tokens.dropLast, token.isEnd = false
  /-- Each is reported once, in order, and on a level of its own. -/
  reported : events.filterMap Event.token? = tokens
  /-- Tokens are of less interest than what they complete. -/
  level : ∀ event ∈ events, event.level = if event.token?.isSome then .trace else .debug
  /-- The words come first among the items of the source … -/
  items : ∃ words later, ItemsBehind source.toList [] (words ++ later) ∧
    events.filterMap Event.span? = words.map Item.span
  /-- … and their bytes stand one behind the other. -/
  spans : (events.filterMap Event.span?).Pairwise fun span later ↦ span.2 ≤ later.1
  /-- The instructions are numbered without a gap … -/
  numbers : (events.filterMap Event.instruction?).map Prod.fst = List.range' 1 count
  /-- … and are those that have all of their operands and stand before a token that is on a later
  line, or the end. -/
  places : ∃ places : List Nat, places.Pairwise (· < ·) ∧ (∀ n, n ∈ places ↔ CompleteAt tokens n) ∧
    places.length = count

/-- **The events are a faithful record of the run**, whether it succeeds or fails. They tell of all
tokens that were pulled, and of the instructions that were handed over by then; a failure is not
among them. The lines of the log name the size of the source, which is the scope of the events. -/
theorem parseSource_trace (source : String) :
    ∃ tokens events count, Faithful source tokens events count ∧
      (∀ event ∈ (parseSource source).events,
        event.Logged event.level event.origin.path event.message) ∧
      (parseSource source).scope? = some ⟨source.utf8ByteSize⟩ ∧
      (run source).pulled <+: scan source ∧
      (∃ point v settled last, Reaches source point v settled ∧
        (run source).pulled = settled.map .ok ++ [last] ∧
        events.filterMap Event.instruction? = point.handed.map Instruction.outline) ∧
      match (parseSource source).result with
      | .ok document =>
        (run source).pulled = tokens.map .ok ∧
        (parseSource source).events = events ++ [.programAccepted count] ∧
        count = document.instructions.length ∧
        events.filterMap Event.instruction? = document.instructions.map Instruction.outline
      | .error failure =>
        ((run source).pulled = tokens.map .ok ∨
          (run source).pulled = tokens.map .ok ++ [.error failure]) ∧
        (parseSource source).events = events := by
  obtain ⟨point, v, settled, hreaches, hstep⟩ := Runs.exists_step (runs_iff.2 rfl) .start
  obtain ⟨tokens, w, hrecorded, hunended, hends⟩ := hreaches.told.ends hreaches.heldOver hstep
  obtain ⟨last, hlast⟩ := hreaches.heldOver.pulled_of_step
  have hprefix := pulled_prefix_scan source
  rw [Validation.Yields, hstep] at hlast
  -- the trace is that of the tokens, however the run ended
  have hfaithful : tokens.map .ok <+: scan source →
      Faithful source tokens w.events.toList w.accepted := fun hscanned ↦
    ⟨hrecorded.trace, hscanned, hunended, hrecorded.trace.filterMap_token?,
      fun _ ↦ hrecorded.trace.level_eq, hrecorded.follows.exists_items, hrecorded.follows.spans,
      hrecorded.trace.map_number, hrecorded.trace.exists_places⟩
  rcases hrun : runFrom .header (ofSource source) with ⟨document, v'⟩ | ⟨failure, v'⟩
  · have hrecord : run source = ⟨.ok document, v'.pulled.toList, v'.events.toList⟩ := by
      rw [run, hrun]
    rw [hrun] at hlast hends
    obtain ⟨hdocument, hpulled, hevents⟩ := hends
    rw [parseSource, hrecord]
    rw [hrecord] at hprefix
    refine ⟨tokens, w.events.toList, w.accepted, hfaithful (hpulled ▸ hprefix),
      fun event hevent ↦ ?_, rfl, hprefix,
      ⟨point, v, settled, last, hreaches, hlast, hrecorded.handed⟩, hpulled, hevents, ?_, ?_⟩
    · rcases List.mem_append.1 (hevents ▸ hevent) with hevent | hevent
      · exact hrecorded.trace.logged hevent
      · exact List.mem_singleton.1 hevent ▸ .programAccepted w.accepted
    · rw [hdocument, hrecorded.accepted_eq]
    · rw [hdocument, hrecorded.handed]
  · have hrecord : run source = ⟨.error failure, v'.pulled.toList, v'.events.toList⟩ := by
      rw [run, hrun]
    rw [hrun] at hlast hends
    obtain ⟨hpulled, hevents⟩ := hends
    rw [parseSource, hrecord]
    rw [hrecord] at hprefix
    have hscanned : tokens.map .ok <+: scan source := by
      rcases hpulled with hpulled | hpulled
      · exact hpulled ▸ hprefix
      · exact (List.prefix_append _ _).trans (hpulled ▸ hprefix)
    exact ⟨tokens, w.events.toList, w.accepted, hfaithful hscanned,
      fun event hevent ↦ hrecorded.trace.logged (hevents ▸ hevent), rfl, hprefix,
      ⟨point, v, settled, last, hreaches, hlast, hrecorded.handed⟩, hpulled, hevents⟩

end Validator

end IppCode
