import IppCode.Proofs.Validation.Stage
import IppCode.Proofs.Words.Spelling

/-!
# How far the tokens of a program have come

The stages of a program, read off its tokens. Tokens are `Complete` up to a line if they are the
header and whole instructions, each on a line of its own; they are `Open` on a line if an opcode
stands on it behind complete tokens, with operands that its signature calls for but maybe not all of
them.

* `reached_of_feed`: a stage is reached only by tokens that it fits, by induction on the tokens.
* `feed_of_complete`, `feed_of_open`: such tokens lead to a stage that fits them.

So a stage says no more than its tokens do, and what is said of tokens by these two notions does not
mention a stage. Tokens that are `Open` may have all operands of their opcode: whether the line is
complete then depends on the next token, and such tokens are `Complete` as well.

Whether a token fits where an operand is called for depends on the kind that is called for alone. If
it does not, there is exactly one complaint to be made about it (`complaint_iff`): about what is
wrong with the token if it suits the kind in the first place, and about the kind if it does not.
-/

namespace IppCode

/-! ### Operands

Whether a token is accepted as an operand, and what is said if not. The question is put to the kind
that is called for and to the token alone; position and fault come after. -/

/-- What the kinds of operands ask of a token in the first place. The name of a type will do for a
label. -/
def Suits : OperandKind → TokenKind → Prop
  | .var, .var _ | .symb, .var _ | .symb, .constant _ | .label, .label _ | .label, .type _
  | .type, .type _ => True
  | _, _ => False

/-- The token is an operand of the kind. -/
inductive Fits : OperandKind → TokenKind → Prop
  | var (v : Variable) : Fits .var (.var v)
  /-- A variable is a symbol as well. -/
  | symbVar (v : Variable) : Fits .symb (.var v)
  /-- A constant has to be well-formed, which the scanner did not ask. -/
  | constant (c : Constant) (hc : c.WellFormed) : Fits .symb (.constant c.text)
  /-- A label has to be an identifier, which the scanner did not ask either. -/
  | label (name : String) (hname : Identifier name) : Fits .label (.label name)
  /-- The name of a type will do for a label. -/
  | typeLabel (t : TypeName) : Fits .label (.type t)
  | type (t : TypeName) : Fits .type (.type t)

/-- What is wrong with a token at the position where an operand of the kind is called for, and how
this is put. -/
inductive Complaint (position : Nat) : OperandKind → TokenKind → OperandFault → String → Prop
  /-- The fault of the constant is put behind the position. -/
  | constant (lexeme : String) (fault : ConstantFault)
      (hfault : Constant.parse lexeme = .error fault) :
    Complaint position .symb (.constant lexeme) (.badConstant position fault)
      s!"operand {position}: {fault.message}"
  /-- The label is quoted in full. -/
  | label (lexeme : String) (hlexeme : ¬ Identifier lexeme) :
    Complaint position .label (.label lexeme) (.badLabel position lexeme)
      s!"operand {position}: '{lexeme}' is not a valid label name"
  /-- What is called for is named, and what was found is quoted. -/
  | wrongKind (kind : OperandKind) (found : TokenKind) (hfound : ¬ Suits kind found) :
    Complaint position kind found (.wrongKind position kind found.text)
      s!"operand {position} should be a {kind.description} but found '{found.text}'"

/-- A token fits exactly if an operand is made of it. The position plays no part in this; it is for
complaints. -/
theorem fits_iff {position : Nat} {kind : OperandKind} {found : TokenKind} :
    Fits kind found ↔ ∃ operand, Operand.ofToken position kind found = .ok operand := by
  constructor
  · intro h
    cases h with
    | var v => exact ⟨_, rfl⟩
    | symbVar v => exact ⟨_, rfl⟩
    | constant c hc =>
      rw [Operand.ofToken, Constant.parse_eq_ok_iff.2 ⟨rfl, hc⟩]
      exact ⟨_, rfl⟩
    | label name hname =>
      rw [Operand.ofToken, if_pos (isIdentifier_eq_true_iff.2 hname)]
      exact ⟨_, rfl⟩
    | typeLabel t => exact ⟨_, rfl⟩
    | type t => exact ⟨_, rfl⟩
  -- one case for each clause of the conversion, in its order
  · rintro ⟨operand, h⟩
    rw [Operand.ofToken.eq_def] at h
    split at h
    case h_1 v => exact .var v
    case h_2 v => exact .symbVar v
    case h_3 lexeme =>
      split at h
      · rename_i c hc
        obtain ⟨rfl, hwell⟩ := Constant.parse_eq_ok_iff.1 hc
        exact .constant c hwell
      · cases h
    case h_4 lexeme =>
      split at h
      · exact .label lexeme (isIdentifier_eq_true_iff.1 ‹_›)
      · cases h
    case h_5 t => exact .typeLabel t
    case h_6 t => exact .type t
    case h_7 => cases h

/-- A token is refused as an operand with the complaint that there is about it. -/
theorem complaint_iff {position : Nat} {kind : OperandKind} {found : TokenKind}
    {fault : OperandFault} {text : String} :
    Complaint position kind found fault text ↔
      Operand.ofToken position kind found = .error fault ∧ text = fault.message := by
  constructor
  · intro h
    cases h with
    | constant lexeme fault hfault => exact ⟨by rw [Operand.ofToken, hfault], rfl⟩
    | label lexeme hlexeme =>
      rw [← isIdentifier_eq_true_iff] at hlexeme
      exact ⟨if_neg hlexeme, rfl⟩
    | wrongKind =>
      rename_i hfound
      refine ⟨?_, rfl⟩
      rw [Operand.ofToken.eq_def]
      split
      case h_7 => rfl
      all_goals exact absurd trivial hfound
  · rintro ⟨h, rfl⟩
    rw [Operand.ofToken.eq_def] at h
    split at h
    case h_3 lexeme =>
      split at h
      · cases h
      · rename_i fault hfault
        cases h
        exact .constant lexeme fault hfault
    case h_4 lexeme =>
      split at h
      · cases h
      · cases h
        exact .label lexeme (by rw [← isIdentifier_eq_true_iff]; assumption)
    case h_7 hvar hsymbVar hconstant hlabel htypeLabel htype =>
      cases h
      refine .wrongKind _ _ fun hsuits ↦ ?_
      rw [Suits.eq_def] at hsuits
      split at hsuits
      · exact hvar _ rfl rfl
      · exact hsymbVar _ rfl rfl
      · exact hconstant _ rfl rfl
      · exact hlabel _ rfl rfl
      · exact htypeLabel _ rfl rfl
      · exact htype _ rfl rfl
      · exact hsuits
    all_goals cases h

/-! ### Tokens

Descriptions of lists of tokens. They are about single tokens and their lines, and about how many
operands there are. -/

/-- The tokens are operands of the kinds, one by one, on the line. -/
def FitAll (line : Nat) (kinds : List OperandKind) (args : List Token) : Prop :=
  List.Forall₂ (fun kind arg ↦ arg.line = line ∧ Fits kind arg.kind) kinds args

/-- The tokens are the header and whole instructions, the last of them on the line, and each on a
line of its own. -/
inductive Complete : List Token → Nat → Prop
  /-- The header is complete by itself. -/
  | header (line : Nat) : Complete [⟨.header, line⟩] line
  /-- One more instruction, on a later line and with all of its operands. -/
  | instruction {tokens args : List Token} {line line' : Nat} (opcode : Opcode)
      (hbefore : Complete tokens line) (hlater : line < line')
      (hargs : FitAll line' opcode.operandKinds args) :
    Complete (tokens ++ ⟨.opcode opcode, line'⟩ :: args) line'

/-- Behind complete tokens stands the opcode, on a line of its own, with so many operands of those
that it calls for. -/
inductive Open : List Token → Nat → Opcode → Nat → Prop
  /-- The operands that are there are the first of those called for, so that what is called for next
  is known from their number. -/
  | mk {tokens args : List Token} {line line' : Nat} (opcode : Opcode)
      (hbefore : Complete tokens line) (hlater : line < line')
      (hargs : FitAll line' (opcode.operandKinds.take args.length) args) :
    Open (tokens ++ ⟨.opcode opcode, line'⟩ :: args) line' opcode args.length

/-- One more operand that fits, of the kind that is called for next. -/
theorem FitAll.concat {line : Nat} {kinds : List OperandKind} {args : List Token}
    {kind : OperandKind} {arg : Token} (h : FitAll line kinds args) (hline : arg.line = line)
    (hfits : Fits kind arg.kind) : FitAll line (kinds ++ [kind]) (args ++ [arg]) :=
  List.rel_append h (.cons ⟨hline, hfits⟩ .nil)

/-- No operand is the end. -/
theorem Fits.isEnd {kind : OperandKind} {token : Token} (h : Fits kind token.kind) :
    token.isEnd = false := by
  rw [Token.isEnd, decide_eq_false_iff_not]
  intro hkind
  rw [hkind] at h
  cases h

/-! ### From stages to tokens

A stage comes from tokens that fit it: by induction at the end of the list, one case for each stage
that a token can be examined at. -/

/-- The tokens fit the stage that they have led to. -/
inductive Reached : List Token → Stage → Prop
  /-- Before the first token. -/
  | start : Reached [] .start
  /-- The header is the first token, or there is no stage. -/
  | header (line : Nat) : Reached [⟨.header, line⟩] (.header line)
  /-- The operands found and the kinds missing make up what the opcode calls for. -/
  | instruction {tokens args : List Token} {line line' : Nat} {opcode : Opcode}
      {done missing : List OperandKind} {found : List Operand} (before : List Instruction)
      (hbefore : Complete tokens line) (hlater : line < line') (hargs : FitAll line' done args)
      (hkinds : opcode.operandKinds = done ++ missing) (hfound : found.length = done.length) :
    Reached (tokens ++ ⟨.opcode opcode, line'⟩ :: args)
      (.instruction before line' opcode found missing)

/-- Behind complete tokens an opcode on a later line opens an instruction. -/
theorem Reached.enter {tokens : List Token} {line : Nat} {token : Token} {next : Stage}
    {before : List Instruction} (h : Complete tokens line) (hoff : token.isOn line = false)
    (hexamine : Stage.enter before token = .ok next) (hend : token.isEnd = false)
    (hline : line ≤ token.line) : Reached (tokens ++ [token]) next := by
  rcases Stage.enter_eq_ok_iff.1 hexamine with ⟨opcode, hkind, rfl⟩ | ⟨hend', -⟩
  · obtain ⟨_, line'⟩ := token
    obtain rfl := hkind
    exact .instruction before h (Token.line_lt_of_isOn_eq_false hoff hend hline) .nil rfl rfl
  · exact absurd hend' (by simp [hend])

/-- One more token that is accepted, and not the end, fits the stage that it leads to. -/
theorem Reached.examine {tokens : List Token} {stage next : Stage} {token : Token}
    (h : Reached tokens stage) (hexamine : stage.examine token = .ok next)
    (hend : token.isEnd = false) (hline : ∀ other ∈ tokens, other.line ≤ token.line) :
    Reached (tokens ++ [token]) next := by
  -- what the token is follows from the stage, and where it stands from the line of the stage
  cases h with
  | start =>
    obtain ⟨hkind, rfl⟩ := Stage.examine_start_eq_ok_iff.1 hexamine
    obtain ⟨_, line⟩ := token
    obtain rfl := hkind
    exact .header line
  | header line =>
    obtain ⟨hoff, henter⟩ := Stage.examine_header_eq_ok_iff.1 hexamine
    exact .enter (.header line) hoff henter hend (hline _ List.mem_cons_self)
  | @instruction tokens args line line' opcode done missing found before hbefore hlater hargs hkinds
      hfound =>
    rcases missing with - | ⟨kind, missing⟩
    · obtain ⟨hoff, henter⟩ := Stage.examine_complete_eq_ok_iff.1 hexamine
      rw [List.append_nil] at hkinds
      have hcomplete : Complete (tokens ++ ⟨.opcode opcode, line'⟩ :: args) line' :=
        .instruction opcode hbefore hlater (hkinds ▸ hargs)
      exact .enter hcomplete hoff henter hend (hline ⟨.opcode opcode, line'⟩ (by simp))
    · obtain ⟨hon, operand, hoperand, rfl⟩ := Stage.examine_operand_eq_ok_iff.1 hexamine
      rw [List.append_assoc, List.cons_append]
      refine .instruction before hbefore hlater
        (hargs.concat (Token.isOn_eq_true_iff.1 hon).1 (fits_iff.2 ⟨operand, hoperand⟩)) ?_ ?_
      · rw [hkinds, List.append_assoc, List.singleton_append]
      · simp [hfound]

/-- Tokens fit the stage that they lead to. -/
theorem reached_of_feed {tokens : List Token} {stage : Stage}
    (h : Stage.start.feed (tokens.map .ok) = .ok stage)
    (hend : ∀ token ∈ tokens, token.isEnd = false)
    (hlines : tokens.Pairwise fun token later ↦ token.line ≤ later.line) :
    Reached tokens stage := by
  induction tokens using List.reverseRecOn generalizing stage with
  | nil =>
    cases h
    exact .start
  | append_singleton tokens token ih =>
    rw [List.map_append, List.map_singleton, Stage.feed_concat_eq_ok_iff] at h
    obtain ⟨last, hlast, hexamine⟩ := h
    obtain ⟨hbefore, -, hlater⟩ := List.pairwise_append.1 hlines
    have hreached :=
      ih hlast (fun other hother ↦ hend other (List.mem_append_left _ hother)) hbefore
    exact hreached.examine hexamine (hend token (by simp)) fun other hother ↦
      hlater other hother token List.mem_cons_self

/-! ### From tokens to stages

And such tokens lead to a stage: by induction on how they are made up, an instruction at a time. -/

/-- Operands that fit are accepted one by one. -/
theorem feed_of_fitAll {before : List Instruction} {line : Nat} {opcode : Opcode}
    {found : List Operand} {done missing : List OperandKind} {args : List Token}
    (h : FitAll line done args) :
    ∃ operands : List Operand, operands.length = args.length ∧
      (Stage.instruction before line opcode found (done ++ missing)).feed (args.map .ok) =
        .ok (.instruction before line opcode (found ++ operands) missing) := by
  induction h generalizing found with
  | nil => exact ⟨[], rfl, by simp⟩
  | @cons kind arg done args harg hargs ih =>
    obtain ⟨hline, hfits⟩ := harg
    obtain ⟨operand, hoperand⟩ := fits_iff.1 hfits
    obtain ⟨operands, hlength, hfeed⟩ := @ih (found ++ [operand])
    refine ⟨operand :: operands, congrArg (· + 1) hlength, ?_⟩
    rw [List.map_cons, Stage.feed_cons_eq_ok_iff]
    refine ⟨arg, _, rfl, Stage.examine_operand_eq_ok_iff.2
      ⟨Token.isOn_eq_true_iff.2 ⟨hline, hfits.isEnd⟩, operand, hoperand, rfl⟩, ?_⟩
    rwa [List.append_assoc] at hfeed

/-- An opcode on a later line than complete tokens, with operands that fit, leads to the stage in
which these have been found. -/
theorem feed_of_opcode {tokens args : List Token} {line line' : Nat} {stage : Stage}
    {instructions : List Instruction} {opcode : Opcode} {done missing : List OperandKind}
    (hfeed : Stage.start.feed (tokens.map .ok) = .ok stage)
    (hrests : stage.Rests line instructions) (hlater : line < line')
    (hkinds : opcode.operandKinds = done ++ missing) (hargs : FitAll line' done args) :
    ∃ found : List Operand, found.length = args.length ∧
      Stage.start.feed ((tokens ++ ⟨.opcode opcode, line'⟩ :: args).map .ok) =
        .ok (.instruction instructions line' opcode found missing) := by
  have hoff : (⟨.opcode opcode, line'⟩ : Token).isOn line = false :=
    Token.isOn_eq_false_iff.2 (.inr (by show line' ≠ line; omega))
  obtain ⟨found, hlength, hfound⟩ := @feed_of_fitAll instructions _ opcode [] _ missing _ hargs
  refine ⟨found, hlength, ?_⟩
  rw [List.map_append, Stage.feed_append_of_ok hfeed, List.map_cons, Stage.feed_cons_eq_ok_iff]
  exact ⟨_, _, rfl, (Stage.examine_of_rests hrests hoff).trans rfl, by rw [hkinds]; exact hfound⟩

/-- Complete tokens lead to a stage in which their line is complete. -/
theorem feed_of_complete {tokens : List Token} {line : Nat} (h : Complete tokens line) :
    ∃ stage instructions, Stage.start.feed (tokens.map .ok) = .ok stage ∧
      stage.Rests line instructions := by
  induction h with
  | header line => exact ⟨_, _, rfl, .header line⟩
  | instruction opcode hbefore hlater hargs ih =>
    obtain ⟨stage, instructions, hfeed, hrests⟩ := ih
    obtain ⟨found, -, hfound⟩ :=
      feed_of_opcode hfeed hrests hlater (List.append_nil _).symm hargs
    exact ⟨_, _, hfound, .instruction _ _ _ _⟩

/-- Open tokens lead to the stage of their instruction. -/
theorem feed_of_open {tokens : List Token} {line count : Nat} {opcode : Opcode}
    (h : Open tokens line opcode count) :
    ∃ before found, found.length = count ∧ Stage.start.feed (tokens.map .ok) =
      .ok (.instruction before line opcode found (opcode.operandKinds.drop count)) := by
  obtain ⟨opcode, hbefore, hlater, hargs⟩ := h
  obtain ⟨stage, instructions, hfeed, hrests⟩ := feed_of_complete hbefore
  obtain ⟨found, hlength, hfound⟩ :=
    feed_of_opcode hfeed hrests hlater (List.take_append_drop _ _).symm hargs
  exact ⟨_, _, hlength, hfound⟩

end IppCode
