import IppCode.Validator
import IppCode.Proofs.Words.Spelling

/-!
# How operands are spelled

The words that spell an operand, for each kind that an opcode can call for (`Spells`). The rules say
nothing of what a word is taken for before it is known to be an operand. That this makes no
difference is the point of this file: a word is taken for something without regard to what is called
for, and only then is it asked whether this will do.

Main statements:

* `spells_iff`: a word behind the first of its line spells an operand exactly when what it is taken
  for is accepted as that operand.
* `ofWord_eq_opcode_iff`: the first word of a line is an opcode exactly when it is a mnemonic, up to
  case, and no other word is one.
* `ofWord_eq_header_iff`: a word is the header wherever it stands.

There are words for which the two could differ. The name of a type is a name, and is taken for the
type; where a label is called for it is accepted all the same. A mnemonic is a name too, and behind
the first word of a line it is taken for a label. No name holds an `@`, so what is spelled with one
is never taken for a label or a type there.
-/

namespace IppCode

/-- The word spells the operand where an operand of the kind is called for. -/
inductive Spells : OperandKind → String → Operand → Prop
  | var (v : Variable) (hname : Identifier v.name) :
    Spells .var (v.frame.keyword ++ "@" ++ v.name) (.var v)
  /-- A variable is a symbol as well. -/
  | symbVar (v : Variable) (hname : Identifier v.name) :
    Spells .symb (v.frame.keyword ++ "@" ++ v.name) (.var v)
  | int (digits : String) (hdigits : IntegerText digits) :
    Spells .symb ("int@" ++ digits) (.constant (.int digits))
  /-- Only two words are constants of type `bool`. -/
  | boolTrue : Spells .symb "bool@true" (.constant (.bool true))
  | boolFalse : Spells .symb "bool@false" (.constant (.bool false))
  | string (body : String) (hbody : EscapedText body) :
    Spells .symb ("string@" ++ body) (.constant (.string body))
  /-- Only one word is a constant of type `nil`. -/
  | nil : Spells .symb "nil@nil" (.constant .nil)
  /-- A label is a name, which may be a keyword. -/
  | label (name : String) (hname : Identifier name) : Spells .label name (.label name)
  | type (type : TypeName) : Spells .type type.keyword (.type type)

/-- The words spell the operands, one by one, where operands of the kinds are called for. -/
inductive SpellAll : List OperandKind → List String → List Operand → Prop
  /-- No words are left where none are called for. -/
  | nil : SpellAll [] [] []
  /-- The first word spells the first operand, and the others the others. -/
  | cons {kind : OperandKind} {kinds : List OperandKind} {word : String} {words : List String}
      {operand : Operand} {operands : List Operand} (hword : Spells kind word operand)
      (hwords : SpellAll kinds words operands) :
    SpellAll (kind :: kinds) (word :: words) (operand :: operands)

/-- A constant is spelled by its text, if it is well-formed. -/
theorem spells_constant_iff {word : String} {c : Constant} :
    Spells .symb word (.constant c) ↔ word = c.text ∧ c.WellFormed := by
  constructor
  · rintro (_ | _ | ⟨digits, h⟩ | _ | _ | ⟨body, h⟩ | _ | _ | _)
    · exact ⟨by simp [Constant.text, Constant.type, Constant.body, ConstantType.keyword], h⟩
    · exact ⟨by decide, trivial⟩
    · exact ⟨by decide, trivial⟩
    · exact ⟨by simp [Constant.text, Constant.type, Constant.body, ConstantType.keyword], h⟩
    · exact ⟨by decide, trivial⟩
  · rintro ⟨rfl, h⟩
    rcases c with digits | (- | -) | body | -
    · exact .int digits h
    · exact .boolFalse
    · exact .boolTrue
    · exact .string body h
    · exact .nil

namespace TokenKind

/-! ### The first word of a line

There the only question is whether the word is the header or a mnemonic. What else it is taken for
matters for the complaint only. -/

variable {word : String} {first : Bool}

/-- A word is a leading opcode if it is the first of its line and a mnemonic … -/
theorem leadingOpcode?_eq_some_iff {op : Opcode} :
    leadingOpcode? word first = some op ↔
      first = true ∧ Text.upperCase word = op.mnemonic := by
  rw [leadingOpcode?, upperCase_eq_mnemonic_iff, ← Opcode.ofText?_eq_some_iff]
  rcases first with - | - <;> simp

/-- … and otherwise none. -/
theorem leadingOpcode?_eq_none_iff :
    leadingOpcode? word first = none ↔
      (first = true → ∀ op : Opcode, Text.upperCase word ≠ op.mnemonic) := by
  simp only [Option.eq_none_iff_forall_ne_some, ne_eq, leadingOpcode?_eq_some_iff, not_and]
  exact forall_comm

/-- The tests that are left for a word which is not the header, in their order. -/
theorem ofWord_of_not_isHeader (h : Text.sameIgnoringCase word headerText = false) :
    ofWord word first =
      match leadingOpcode? word first with
      | some op => .ok (opcode op)
      | none =>
        if '@' ∈ word.toList then ofTagged word first
        else match TypeName.ofText? word with
          | some t => .ok (type t)
          | none => .ok (label word) := by
  exact if_neg (by simp [h])

/-- Nothing but the header is taken for it, and nothing else is taken for an opcode. -/
theorem text_of_ofTagged {kind : TokenKind} (h : ofTagged word first = .ok kind) :
    kind.text = word ∧ kind ≠ header ∧ ∀ op, kind ≠ opcode op := by
  rw [ofTagged] at h
  split at h
  · rename_i frame name hsplit
    split at h
    · cases h
      exact ⟨(splitFrame?_eq_some_iff.1 hsplit).symm, by simp, by simp⟩
    split at h
    · cases h
      exact ⟨rfl, by simp, by simp⟩
    · cases h
  · cases h
    exact ⟨rfl, by simp, by simp⟩

/-- A token is the header, an opcode at the beginning of a line, or quoted as its word. -/
theorem text_of_ofWord {kind : TokenKind} (h : ofWord word first = .ok kind) :
    (kind = header ∧ Text.sameIgnoringCase word headerText = true) ∨
      (∃ op, kind = opcode op ∧ first = true ∧
        Text.sameIgnoringCase op.mnemonic word = true) ∨
      (kind.text = word ∧ kind ≠ header ∧ ∀ op, kind ≠ opcode op) := by
  rcases hheader : Text.sameIgnoringCase word headerText with - | -
  case true =>
    rw [ofWord, if_pos hheader] at h
    cases h
    exact .inl ⟨rfl, rfl⟩
  rw [ofWord_of_not_isHeader hheader] at h
  split at h
  · rename_i op hop
    cases h
    rcases first with - | -
    · cases hop
    · exact .inr (.inl ⟨op, rfl, rfl, Opcode.ofText?_eq_some_iff.1 hop⟩)
  refine .inr (.inr ?_)
  split at h
  · exact text_of_ofTagged h
  split at h
  · rename_i t ht
    cases h
    exact ⟨(TypeName.ofText?_eq_some_iff.1 ht).symm, by simp, by simp⟩
  · cases h
    exact ⟨rfl, by simp, by simp⟩

/-- A word is the header wherever it stands. -/
theorem ofWord_eq_header_iff :
    ofWord word first = .ok header ↔ Text.sameIgnoringCase word headerText = true := by
  constructor
  · intro h
    rcases text_of_ofWord h with ⟨-, hheader⟩ | ⟨op, hop, -⟩ | ⟨-, hne, -⟩
    · exact hheader
    · cases hop
    · exact absurd rfl hne
  · intro h
    rw [ofWord, if_pos h]

/-- A word is an opcode exactly when it is the first of its line and a mnemonic, up to case. -/
theorem ofWord_eq_opcode_iff {op : Opcode} :
    ofWord word first = .ok (opcode op) ↔
      first = true ∧ Text.sameIgnoringCase op.mnemonic word = true := by
  constructor
  · intro h
    rcases text_of_ofWord h with ⟨hheader, -⟩ | ⟨op', hop, hfirst, hword⟩ | ⟨-, -, hne⟩
    · cases hheader
    · cases hop
      exact ⟨hfirst, hword⟩
    · exact absurd rfl (hne op)
  · rintro ⟨rfl, h⟩
    rw [ofWord_of_not_isHeader (not_isHeader_of_mnemonic h)]
    have hop : leadingOpcode? word true = some op := Opcode.ofText?_eq_some_iff.2 h
    rw [hop]

/-! ### Words that hold an `@`, and words behind the first -/

/-- A word that holds an `@` is neither the header nor a mnemonic. -/
theorem ofWord_of_at (h : '@' ∈ word.toList) : ofWord word first = ofTagged word first := by
  have hheader : Text.sameIgnoringCase word headerText = false := by
    rw [Bool.eq_false_iff]
    intro hheader
    exact absurd ((Text.mem_iff_of_sameIgnoringCase hheader (by decide)).1 h) (by decide)
  have hopcode : leadingOpcode? word first = none :=
    leadingOpcode?_eq_none_iff.2 fun _ _ hopcode ↦
      not_mem_at_of_mnemonic (upperCase_eq_mnemonic_iff.1 hopcode) h
  rw [ofWord_of_not_isHeader hheader, hopcode]
  exact if_pos h

theorem ofWord_variable (v : Variable) :
    ofWord (v.frame.keyword ++ "@" ++ v.name) false = .ok (var v) := by
  rw [ofWord_of_at (by simp), ofTagged, splitFrame?_eq_some_iff.2 rfl]
  exact dif_pos v.name_isIdentifier

/-- What is written as a constant is taken for one, and its body is not looked at yet. -/
theorem ofWord_constant (c : Constant) : ofWord c.text false = .ok (constant c.text) := by
  rw [ofWord_of_at (by simp [Constant.text]), ofTagged, Constant.text, splitFrame?_constant]

theorem ofWord_identifier {name : String} (h : Identifier name) :
    ofWord name false =
      match TypeName.ofText? name with
      | some t => .ok (type t)
      | none => .ok (label name) := by
  rw [ofWord_of_not_isHeader h.not_isHeader]
  exact if_neg h.not_mem_at

theorem ofWord_typeName (t : TypeName) : ofWord t.keyword false = .ok (type t) := by
  cases t <;> decide

end TokenKind

/-- The name of a type is a name, so it can stand where a label is called for. -/
theorem TypeName.identifier_keyword (t : TypeName) : Identifier t.keyword := by
  rw [← isIdentifier_eq_true_iff]
  cases t <;> decide

/-- What an operand is spelled by is taken for a token that is accepted as the operand. -/
theorem Spells.ofToken {position : Nat} {kind : OperandKind} {word : String} {operand : Operand}
    (h : Spells kind word operand) :
    ∃ found, TokenKind.ofWord word false = .ok found ∧
      Operand.ofToken position kind found = .ok operand := by
  have hconstant : ∀ c : Constant, Spells .symb word (.constant c) →
      ∃ found, TokenKind.ofWord word false = .ok found ∧
        Operand.ofToken position .symb found = .ok (.constant c) := by
    intro c hc
    obtain ⟨rfl, hwell⟩ := spells_constant_iff.1 hc
    refine ⟨.constant c.text, TokenKind.ofWord_constant c, ?_⟩
    rw [Operand.ofToken, Constant.parse_eq_ok_iff.2 ⟨rfl, hwell⟩]
  cases h with
  | var v hname => exact ⟨.var v, TokenKind.ofWord_variable v, rfl⟩
  | symbVar v hname => exact ⟨.var v, TokenKind.ofWord_variable v, rfl⟩
  | int digits hdigits => exact hconstant _ (.int digits hdigits)
  | boolTrue => exact hconstant _ .boolTrue
  | boolFalse => exact hconstant _ .boolFalse
  | string body hbody => exact hconstant _ (.string body hbody)
  | nil => exact hconstant _ .nil
  | label name hname =>
    rw [TokenKind.ofWord_identifier hname]
    rcases htype : TypeName.ofText? word with - | t
    · exact ⟨.label word, rfl, if_pos (isIdentifier_eq_true_iff.2 hname)⟩
    · obtain rfl := TypeName.ofText?_eq_some_iff.1 htype
      exact ⟨.type t, rfl, rfl⟩
  | type t => exact ⟨.type t, TokenKind.ofWord_typeName t, rfl⟩

/-- **A word spells an operand exactly when it is accepted as that operand**, at whatever
position. -/
theorem spells_iff {position : Nat} {kind : OperandKind} {word : String} {operand : Operand} :
    Spells kind word operand ↔ ∃ found, TokenKind.ofWord word false = .ok found ∧
      Operand.ofToken position kind found = .ok operand := by
  refine ⟨Spells.ofToken, ?_⟩
  rintro ⟨found, hfound, hoperand⟩
  -- behind the first word nothing is an opcode, and the header is no operand; all else is spelled
  -- by the text that it is quoted as
  rcases TokenKind.text_of_ofWord hfound with ⟨rfl, -⟩ | ⟨op, -, hfirst, -⟩ | ⟨rfl, -, -⟩
  · cases kind <;> cases hoperand
  · cases hfirst
  rw [Operand.ofToken.eq_def] at hoperand
  split at hoperand
  case h_1 v =>
    cases hoperand
    exact .var v (isIdentifier_eq_true_iff.1 v.name_isIdentifier)
  case h_2 v =>
    cases hoperand
    exact .symbVar v (isIdentifier_eq_true_iff.1 v.name_isIdentifier)
  case h_3 lexeme =>
    split at hoperand
    · rename_i c hc
      cases hoperand
      exact spells_constant_iff.2 (Constant.parse_eq_ok_iff.1 hc)
    · cases hoperand
  case h_4 lexeme =>
    split at hoperand
    · cases hoperand
      exact .label lexeme (isIdentifier_eq_true_iff.1 ‹_›)
    · cases hoperand
  case h_5 t =>
    cases hoperand
    exact .label t.keyword t.identifier_keyword
  case h_6 t =>
    cases hoperand
    exact .type t
  case h_7 => cases hoperand

end IppCode
