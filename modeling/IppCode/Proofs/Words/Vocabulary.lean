import IppCode.Proofs.Words.Classification

/-!
# The vocabulary

Keywords are recognised from the text that displays them, the header and the mnemonics in any case,
and from no other text (`keywords_recognised`).

The main lemma is `Keyword.AcceptedFrom.unique`: a text is accepted as one keyword at most. The
tests that a word is put to therefore exclude one another, and may be tried in any order
(`WordTest.classify_of_perm`). The test for a frame is about the part of a word in front of an `@`
only; it excludes the others because no keyword holds an `@`.

Uniqueness comes from one fact about one table: the upper-case forms of all keywords, of whatever
family, are different. So it is not shown for two families at a time, and a keyword that is added to
any of them has to be compared with the table only.

What the order of the tests could have changed is in `WordTest.outcome?`: a test that comes first
and applies hides all others. A word to which no test applies is a constant or a label, and these
two are told apart by an `@`, so they need no order either.
-/

namespace IppCode

/-! ### Families of keywords

Recognising is the same for all three families but for what counts as a spelling, so it is described
once, as a structure of laws, with the spelling as a parameter. -/

/-- How a family of keywords is recognised, where `Spells text member` says that the text is a
spelling of the member. -/
structure Recognises {α : Type} (family : KeywordFamily)
    (parse : String → Except UnknownKeyword α) (Spells : String → α → Prop) : Prop where
  /-- A text is accepted as the member that it spells. -/
  accepted (text : String) (member : α) : parse text = .ok member ↔ Spells text member
  /-- There is at most one such member. -/
  unique (text : String) (member other : α) :
    Spells text member → Spells text other → member = other
  /-- A text that spells none is refused, and the complaint is about this family and this text. -/
  refused (text : String) (unknown : UnknownKeyword) :
    parse text = .error unknown ↔
      (∀ member, ¬ Spells text member) ∧ unknown = ⟨family, text⟩

namespace KeywordFamily

section Require

variable {α : Type} {family : KeywordFamily} {text : String} {found : Option α}

theorem require_eq_ok_iff {member : α} :
    family.require text found = .ok member ↔ found = some member := by
  rcases found with - | other <;> simp [require]

theorem require_eq_error_iff {unknown : UnknownKeyword} :
    family.require text found = .error unknown ↔ found = none ∧ unknown = ⟨family, text⟩ := by
  rcases found with - | other <;> simp [require, eq_comm]

end Require

/-- A family is recognised if the search for a member finds what the text spells. -/
theorem recognises {α : Type} (family : KeywordFamily) {search : String → Option α}
    {Spells : String → α → Prop}
    (h : ∀ text member, search text = some member ↔ Spells text member) :
    Recognises family (fun text ↦ family.require text (search text)) Spells where
  accepted text member := require_eq_ok_iff.trans (h text member)
  unique text member other hmember hother := by
    rw [← h] at hmember hother
    exact Option.some.inj (hmember.symm.trans hother)
  refused text unknown := by
    have hnone : search text = none ↔ ∀ member, ¬ Spells text member := by
      simp only [← h, Option.eq_none_iff_forall_ne_some, ne_eq]
    rw [require_eq_error_iff, hnone]

end KeywordFamily

theorem Opcode.recognises :
    Recognises .opcode parse fun text opcode ↦ Text.upperCase text = opcode.mnemonic :=
  KeywordFamily.opcode.recognises fun _ _ ↦
    ofText?_eq_some_iff.trans upperCase_eq_mnemonic_iff.symm

theorem Frame.recognises : Recognises .frame parse fun text frame ↦ text = frame.keyword :=
  KeywordFamily.frame.recognises fun _ _ ↦ ofText?_eq_some_iff

theorem TypeName.recognises : Recognises .typeName parse fun text type ↦ text = type.keyword :=
  KeywordFamily.typeName.recognises fun _ _ ↦ ofText?_eq_some_iff

/-- A search through the opcodes finds the same one in whatever order it goes through them. -/
theorem Opcode.find?_of_perm {table : List Opcode} (htable : table.Perm all) (text : String) :
    (table.find? fun opcode ↦ Text.sameIgnoringCase opcode.mnemonic text) = ofText? text := by
  refine Option.ext fun opcode ↦ ?_
  have hmem : opcode ∈ table := htable.mem_iff.2 opcode.mem_all
  rw [find?_eq_some_iff hmem, ofText?_eq_some_iff]

/-! ### Keywords

Which texts are accepted as a keyword, for all keywords at once. The header is in no family, and is
accepted in the way of mnemonics. -/

namespace Keyword

/-- The text is accepted as the keyword where one of its family is looked for. -/
def AcceptedFrom : Keyword → String → Prop
  | header, text => Text.sameIgnoringCase text headerText = true
  | opcode op, text => Opcode.parse text = .ok op
  | frame f, text => Frame.parse text = .ok f
  | type t, text => TypeName.parse text = .ok t

/-- What is displayed is accepted as what it displays. -/
theorem acceptedFrom_text (k : Keyword) : k.AcceptedFrom k.text := by
  cases k with
  | header => exact Text.sameIgnoringCase_refl headerText
  | opcode op => exact (Opcode.recognises.accepted _ op).2 op.upperCase_mnemonic
  | frame f => exact (Frame.recognises.accepted _ f).2 rfl
  | type t => exact (TypeName.recognises.accepted _ t).2 rfl

section Accepted

variable {k k' : Keyword} {text : String}

/-- What is displayed differs in case at most from what is accepted. -/
theorem AcceptedFrom.sameIgnoringCase (h : k.AcceptedFrom text) :
    Text.sameIgnoringCase k.text text = true := by
  cases k with
  | header => exact Text.sameIgnoringCase_symm h
  | opcode op => exact upperCase_eq_mnemonic_iff.1 ((Opcode.recognises.accepted text op).1 h)
  | frame f =>
    obtain rfl := (Frame.recognises.accepted text f).1 h
    exact Text.sameIgnoringCase_refl f.keyword
  | type t =>
    obtain rfl := (TypeName.recognises.accepted text t).1 h
    exact Text.sameIgnoringCase_refl t.keyword

/-- A text is accepted as one keyword at most, of whatever family. -/
theorem AcceptedFrom.unique (h : k.AcceptedFrom text) (h' : k'.AcceptedFrom text) : k = k' :=
  eq_of_sameIgnoringCase h.sameIgnoringCase h'.sameIgnoringCase

theorem AcceptedFrom.not_mem_at (h : k.AcceptedFrom text) : '@' ∉ text.toList :=
  Keyword.not_mem_at h.sameIgnoringCase

end Accepted

end Keyword

/-! ### The tests that a word is put to

Four tests, each with its own outcome if it applies. Two that apply to one word would accept it as
two keywords. -/

/-- What a word is tested for before it is left as a constant or a label: whether it is the header,
a mnemonic or a type name, and whether a frame stands in front of an `@` in it. -/
inductive WordTest
  /-- Is it the header, in whatever case? -/
  | header
  /-- Is it a mnemonic, in whatever case? -/
  | opcode
  /-- Does it begin with a frame and an `@`? -/
  | frame
  /-- Is it the name of a type? -/
  | type
  deriving DecidableEq

/-- The test that looks for the keyword. -/
def Keyword.test : Keyword → WordTest
  | header => .header
  | opcode _ => .opcode
  | frame _ => .frame
  | type _ => .type

/-- If no two members have an outcome, the order in which they are tried does not matter. -/
theorem findSome?_eq_of_perm {α β : Type} {members members' : List α} {outcome? : α → Option β}
    (hperm : members.Perm members')
    (hunique : ∀ a a' b b', outcome? a = some b → outcome? a' = some b' → a = a') :
    members.findSome? outcome? = members'.findSome? outcome? := by
  rcases hfind : members'.findSome? outcome? with - | b
  · rw [List.findSome?_eq_none_iff] at hfind ⊢
    exact fun a ha ↦ hfind a (hperm.mem_iff.1 ha)
  · obtain ⟨a, hmem, ha⟩ := List.exists_of_findSome?_eq_some hfind
    refine findSome?_eq_some_of_unique (hperm.mem_iff.2 hmem) ha fun a' _ b' ha' ↦ ?_
    obtain rfl := hunique a a' b b' ha ha'
    exact Option.some.inj (ha'.symm.trans ha)

namespace WordTest

def all : List WordTest :=
  [header, opcode, frame, type]

/-- What the test takes the word for, if it applies to it. -/
def outcome? (word : String) (first : Bool) : WordTest → Option (Except LexicalFault TokenKind)
  | header => if Text.sameIgnoringCase word headerText then some (.ok .header) else none
  | opcode => (TokenKind.leadingOpcode? word first).map fun op ↦ .ok (.opcode op)
  | frame => (splitFrame? word).map fun _ ↦ TokenKind.ofTagged word first
  | type => (TypeName.ofText? word).map fun t ↦ .ok (.type t)

/-- What a word is taken for if the tests are tried in the given order. A word to which none of
them applies is a constant if it holds an `@`, and a label if it does not. -/
def classify (tests : List WordTest) (word : String) (first : Bool) :
    Except LexicalFault TokenKind :=
  match tests.findSome? (outcome? word first) with
  | some outcome => outcome
  | none => .ok (if '@' ∈ word.toList then .constant word else .label word)

variable {word : String} {first : Bool}

/-- A test applies to a word only if the word is accepted as a keyword of the test, or if the test
is the one for a frame and the word holds an `@`. -/
theorem exists_of_outcome? {test : WordTest} {outcome : Except LexicalFault TokenKind}
    (h : test.outcome? word first = some outcome) :
    (∃ k : Keyword, k.test = test ∧ k.AcceptedFrom word) ∨
      (test = frame ∧ '@' ∈ word.toList) := by
  cases test with
  | header =>
    obtain ⟨hword, -⟩ := Option.ite_none_right_eq_some.1 h
    exact .inl ⟨.header, rfl, hword⟩
  | opcode =>
    obtain ⟨op, hop, -⟩ := Option.map_eq_some_iff.1 h
    obtain ⟨-, hword⟩ := TokenKind.leadingOpcode?_eq_some_iff.1 hop
    exact .inl ⟨.opcode op, rfl, (Opcode.recognises.accepted word op).2 hword⟩
  | frame =>
    obtain ⟨⟨f, name⟩, hsplit, -⟩ := Option.map_eq_some_iff.1 h
    obtain rfl := splitFrame?_eq_some_iff.1 hsplit
    exact .inr ⟨rfl, by simp⟩
  | type =>
    obtain ⟨t, ht, -⟩ := Option.map_eq_some_iff.1 h
    have hword := TypeName.ofText?_eq_some_iff.1 ht
    exact .inl ⟨.type t, rfl, (TypeName.recognises.accepted word t).2 hword⟩

/-- At most one test applies to a word. -/
theorem unique_of_outcome? (test test' : WordTest)
    (outcome outcome' : Except LexicalFault TokenKind)
    (h : test.outcome? word first = some outcome)
    (h' : test'.outcome? word first = some outcome') : test = test' := by
  obtain ⟨k, rfl, hk⟩ | ⟨rfl, hat⟩ := exists_of_outcome? h <;>
    obtain ⟨k', rfl, hk'⟩ | ⟨rfl, hat'⟩ := exists_of_outcome? h'
  · exact congrArg Keyword.test (hk.unique hk')
  · exact absurd hat' hk.not_mem_at
  · exact absurd hat hk'.not_mem_at
  · rfl

/-- In the usual order the tests take a word for what it is. -/
theorem classify_all (word : String) (first : Bool) :
    classify all word first = TokenKind.ofWord word first := by
  rcases hheader : Text.sameIgnoringCase word headerText with - | -
  case true => simp [classify, all, outcome?, TokenKind.ofWord, hheader]
  rw [TokenKind.ofWord_of_not_isHeader hheader]
  rcases hop : TokenKind.leadingOpcode? word first with - | op
  case some => simp [classify, all, outcome?, hheader, hop]
  by_cases hat : '@' ∈ word.toList
  · have htype : TypeName.ofText? word = none := by
      refine Option.eq_none_iff_forall_ne_some.2 fun t ht ↦ ?_
      have hword := (TypeName.recognises.accepted word t).2 (TypeName.ofText?_eq_some_iff.1 ht)
      exact Keyword.AcceptedFrom.not_mem_at (k := .type t) hword hat
    rcases hsplit : splitFrame? word with - | ⟨f, name⟩ <;>
      simp [classify, all, outcome?, TokenKind.ofTagged, hheader, hop, hat, htype, hsplit]
  · have hsplit : splitFrame? word = none := by
      rw [Option.eq_none_iff_forall_ne_some]
      rintro ⟨f, name⟩ hsplit
      refine hat ?_
      rw [splitFrame?_eq_some_iff.1 hsplit]
      simp
    rcases htype : TypeName.ofText? word with - | t <;>
      simp [classify, all, outcome?, hheader, hop, hat, htype, hsplit]

/-- The order of the tests does not matter, since no two of them apply to one word. -/
theorem classify_of_perm {tests : List WordTest} (htests : tests.Perm all) (word : String)
    (first : Bool) : classify tests word first = TokenKind.ofWord word first := by
  rw [← classify_all, classify, findSome?_eq_of_perm htests unique_of_outcome?, classify]

end WordTest

/-! ### Recognition and display -/

/-- **Recognising a keyword is the inverse of displaying it.** A text is an opcode exactly if its
upper-case form is the opcode's mnemonic, and a frame or the name of a type exactly if it is the
keyword of one; every other text is refused with a complaint about itself. A search through the
opcodes finds the one that fits wherever it stands. What a keyword is displayed as is accepted as
that keyword, and no text is accepted as two, of one family or of two. So a word is taken for the
same thing in whatever order it is tested for keywords. -/
theorem keywords_recognised :
    Recognises .opcode Opcode.parse (fun text opcode ↦ Text.upperCase text = opcode.mnemonic) ∧
      Recognises .frame Frame.parse (fun text frame ↦ text = frame.keyword) ∧
      Recognises .typeName TypeName.parse (fun text type ↦ text = type.keyword) ∧
      (∀ (table : List Opcode) (text : String), table.Perm Opcode.all →
        (table.find? fun opcode ↦ Text.sameIgnoringCase opcode.mnemonic text) =
          Opcode.ofText? text) ∧
      (∀ k : Keyword, k.AcceptedFrom k.text) ∧
      (∀ (k k' : Keyword) (text : String), k.AcceptedFrom text → k'.AcceptedFrom text →
        k = k') ∧
      ∀ (tests : List WordTest) (word : String) (first : Bool), tests.Perm WordTest.all →
        WordTest.classify tests word first = TokenKind.ofWord word first := by
  refine ⟨Opcode.recognises, Frame.recognises, TypeName.recognises, ?search,
    Keyword.acceptedFrom_text, ?unique, ?order⟩
  case search =>
    intro table text htable
    exact Opcode.find?_of_perm htable text
  case unique =>
    intro k k' text h h'
    exact h.unique h'
  case order =>
    intro tests word first htests
    exact WordTest.classify_of_perm htests word first

/-- Only ASCII letters are folded: the Kelvin sign is no `K`, although its lower case is `k`. -/
example : Opcode.parse "brea\u212a" = .error ⟨.opcode, "brea\u212a"⟩ := by rfl

end IppCode
