import IppCode.Proofs.Words.Spelling

/-!
# What the constants are

The texts of constants are given by one rule for each form (`ConstantText`), and `Constant.parse`
accepts these texts and no others (`Constant.parse_exact`).

Reading tries one type after the other. A text that has a tag is read as the type of the tag,
whichever types are tried before (`Constant.parseAs_tag`), and a text without a tag is refused in
one way (`Constant.parseAs_untagged`). So the order in which the types are tried does not show in
any outcome, refusals included.
-/

namespace IppCode

/-- The texts of the constants of a type: its tag, and a body that the type allows. -/
inductive ConstantText : ConstantType → String → Prop
  /-- The sign and the zeros in front of a number are part of its body. -/
  | int (body : String) (h : IntegerText body) : ConstantText .int ("int@" ++ body)
  /-- The body may be empty, and may hold an `@`. -/
  | string (body : String) (h : EscapedText body) : ConstantText .string ("string@" ++ body)
  /-- Of the other types all texts can be listed. -/
  | true : ConstantText .bool "bool@true"
  | false : ConstantText .bool "bool@false"
  | nil : ConstantText .nil "nil@nil"

/-- These are what well-formed constants are written as. -/
theorem constantText_iff {type : ConstantType} {text : String} :
    ConstantText type text ↔ ∃ c : Constant, c.type = type ∧ c.text = text ∧ c.WellFormed := by
  constructor
  · intro h
    rcases h with ⟨body, h⟩ | ⟨body, h⟩ | - | - | -
    · exact ⟨.int body, rfl, rfl, h⟩
    · exact ⟨.string body, rfl, rfl, h⟩
    · exact ⟨.bool Bool.true, rfl, rfl, trivial⟩
    · exact ⟨.bool Bool.false, rfl, rfl, trivial⟩
    · exact ⟨.nil, rfl, rfl, trivial⟩
  · rintro ⟨c, rfl, rfl, h⟩
    rcases c with digits | ⟨- | -⟩ | body | -
    · exact .int digits h
    · exact .false
    · exact .true
    · exact .string body h
    · exact .nil

namespace Constant

/-- A text without a tag is refused as a whole, whichever types are tried. -/
theorem parseAs_untagged {text : String}
    (h : ∀ (type : ConstantType) (body : String), text ≠ type.keyword ++ "@" ++ body)
    (types : List ConstantType) : parseAs types text = .error (.untyped text) := by
  have hnone : (types.findSome? fun type ↦ (type.body? text).map type.read) = none := by
    refine List.findSome?_eq_none_iff.2 fun type _ ↦ ?_
    rcases hbody : type.body? text with - | body
    · rfl
    · exact absurd (ConstantType.body?_eq_some_iff.1 hbody) (h type body)
  rw [parseAs, hnone]

/-- As long as no type is left out, the order in which the types are tried does not matter. -/
theorem parseAs_eq_parse {types : List ConstantType} (h : ∀ type, type ∈ types) (text : String) :
    parseAs types text = parse text := by
  by_cases htag : ∃ (type : ConstantType) (body : String), text = type.keyword ++ "@" ++ body
  · obtain ⟨type, body, rfl⟩ := htag
    rw [parseAs_tag (h type), parse_tag]
  · simp only [not_exists] at htag
    rw [parse, parseAs_untagged htag, parseAs_untagged htag]

/-- **Constants are recognised exactly and kept as they are written.** A text is accepted if it is
the text of a constant, and then read as one of the type whose tag it has; writing that constant
gives the text back. Trying the types in another order gives the same outcome on every text. -/
theorem parse_exact (text : String) :
    ((∃ c, parse text = .ok c) ↔ ∃ type, ConstantText type text) ∧
      (∀ c, parse text = .ok c →
        c.type.keyword ++ "@" ++ c.body = text ∧ ConstantText c.type text ∧
          ∀ (type : ConstantType) (body : String), text = type.keyword ++ "@" ++ body →
            c.type = type ∧ c.body = body) ∧
      ∀ types : List ConstantType, types.Perm ConstantType.all →
        parseAs types text = parse text := by
  refine ⟨⟨?_, ?_⟩, fun c hc ↦ ?_, fun types htypes ↦ ?_⟩
  · rintro ⟨c, hc⟩
    obtain ⟨htext, hwell⟩ := parse_eq_ok_iff.1 hc
    exact ⟨c.type, constantText_iff.2 ⟨c, rfl, htext.symm, hwell⟩⟩
  · rintro ⟨type, htype⟩
    obtain ⟨c, -, htext, hwell⟩ := constantText_iff.1 htype
    exact ⟨c, parse_eq_ok_iff.2 ⟨htext.symm, hwell⟩⟩
  · obtain ⟨htext, hwell⟩ := parse_eq_ok_iff.1 hc
    refine ⟨htext.symm, constantText_iff.2 ⟨c, rfl, htext.symm, hwell⟩, fun type body htag ↦ ?_⟩
    exact ConstantType.eq_of_tag (htext.symm.trans htag)
  · exact parseAs_eq_parse (fun type ↦ htypes.mem_iff.2 type.mem_all) text

end Constant

end IppCode
