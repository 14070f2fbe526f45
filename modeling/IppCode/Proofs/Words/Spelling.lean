import IppCode.Operand
import IppCode.Proofs.Words.Keyword

/-!
# How names and constants are spelled

The rules for names, numbers, strings and constants, read off the written text alone, and the checks
of the language against them: `isIdentifier_eq_true_iff`, `isDecimalInteger_eq_true_iff`,
`isEscaped_eq_true_iff`, `Constant.parse_eq_ok_iff`.

A word that holds an `@` is cut at the first one. No frame, no tag and no name holds another, so the
parts that are found are those the word was put together from (`splitFrame?_eq_some_iff`,
`Constant.parse_tag`). The body of a string may hold more, and this is why the cut is at the first.

The rule for escapes is about every place of a string: three digits stand behind each backslash. The
check goes on behind the digits of an escape, and so it does not look at every place. Both come to
the same because no digit is a backslash (`isEscaped_eq_true_iff_forall`). More digits may follow,
of which nothing is asked.

Constants are tried as one type after the other. That the order does not matter is no property of
the search, which stops at the first type whose tag is there: it is that no word has two tags
(`ConstantType.eq_of_tag`).
-/

namespace IppCode

/-! ### Characters

The classes that names and numbers are made of. All of their characters are printable ASCII. -/

/-- The digits `0` to `9`. -/
def IsDigit (c : Char) : Prop :=
  '0' ≤ c ∧ c ≤ '9'

/-- The letters `A` to `Z` and `a` to `z`, and eight marks. -/
def IsNameStart (c : Char) : Prop :=
  ('A' ≤ c ∧ c ≤ 'Z') ∨ ('a' ≤ c ∧ c ≤ 'z') ∨ c ∈ "_-$&%*!?".toList

theorem isDigit_eq_true_iff {c : Char} : c.isDigit = true ↔ IsDigit c := by
  rw [Char.isDigit, Bool.and_eq_true, decide_eq_true_eq, decide_eq_true_eq]
  exact Iff.rfl

theorem isNameStart_eq_true_iff {c : Char} : isNameStart c = true ↔ IsNameStart c := by
  have hmarks : ['_', '-', '$', '&', '%', '*', '!', '?'] = "_-$&%*!?".toList := by decide
  rw [isNameStart, Bool.or_eq_true, hmarks, List.contains_iff_mem, IsNameStart, ← or_assoc]
  simp only [Char.isAlpha, Char.isUpper, Char.isLower, Bool.or_eq_true, Bool.and_eq_true,
    decide_eq_true_eq]
  exact Iff.rfl

theorem IsDigit.printable {c : Char} (h : IsDigit c) : 0x20 ≤ c.toNat ∧ c.toNat ≤ 0x7E :=
  ⟨Nat.le_trans (by decide) h.1, Nat.le_trans h.2 (by decide)⟩

/-- All characters that may begin a name are printable ASCII, the marks among them. -/
theorem IsNameStart.printable {c : Char} (h : IsNameStart c) :
    0x20 ≤ c.toNat ∧ c.toNat ≤ 0x7E := by
  rcases h with h | h | h
  · exact ⟨Nat.le_trans (by decide) h.1, Nat.le_trans h.2 (by decide)⟩
  · exact ⟨Nat.le_trans (by decide) h.1, Nat.le_trans h.2 (by decide)⟩
  · have hmarks : "_-$&%*!?".toList.all fun d ↦ 0x20 ≤ d.toNat ∧ d.toNat ≤ 0x7E := by decide
    exact of_decide_eq_true (List.all_eq_true.1 hmarks c h)

/-! ### Identifiers

A name is described by its first character and by the others. What holds of both classes holds of
all its characters. -/

/-- A name: it begins with a letter or a mark and goes on with these or digits. -/
def Identifier (name : String) : Prop :=
  ∃ c cs, name.toList = c :: cs ∧ IsNameStart c ∧ ∀ d ∈ cs, IsNameStart d ∨ IsDigit d

theorem isIdentifier_eq_true_iff {name : String} :
    isIdentifier name = true ↔ Identifier name := by
  rw [isIdentifier, Identifier]
  rcases name.toList with - | ⟨c, cs⟩
  · simp
  · simp [isNameChar, isNameStart_eq_true_iff, isDigit_eq_true_iff]

/-- Names hold letters, marks and digits only. -/
theorem Identifier.isNameChar {name : String} (h : Identifier name) {c : Char}
    (hc : c ∈ name.toList) : isNameChar c = true := by
  obtain ⟨first, cs, hname, hfirst, hcs⟩ := h
  rw [IppCode.isNameChar, Bool.or_eq_true, isNameStart_eq_true_iff, isDigit_eq_true_iff]
  rw [hname] at hc
  rcases List.mem_cons.1 hc with rfl | hmem
  · exact .inl hfirst
  · exact hcs c hmem

/-- Names are printable ASCII. They can be written anywhere as they are, in a document, in a message
or in the log. -/
theorem Identifier.printable {name : String} (h : Identifier name) {c : Char}
    (hc : c ∈ name.toList) : 0x20 ≤ c.toNat ∧ c.toNat ≤ 0x7E := by
  have hname := h.isNameChar hc
  rw [IppCode.isNameChar, Bool.or_eq_true, isNameStart_eq_true_iff, isDigit_eq_true_iff] at hname
  exact hname.elim (·.printable) (·.printable)

/-- A character of no name stands in none. -/
theorem Identifier.not_mem {name : String} (h : Identifier name) {c : Char}
    (hc : IppCode.isNameChar c = false) : c ∉ name.toList := fun hmem ↦ by
  simp [h.isNameChar hmem] at hc

/-- No name holds an `@`. -/
theorem Identifier.not_mem_at {name : String} (h : Identifier name) : '@' ∉ name.toList :=
  h.not_mem (by decide)

/-- No name is a header. -/
theorem Identifier.not_isHeader {name : String} (h : Identifier name) :
    Text.sameIgnoringCase name headerText = false := by
  rw [Bool.eq_false_iff]
  intro hheader
  obtain ⟨c, cs, hname, hc, -⟩ := h
  have hdot := head?_of_isHeader hheader
  rw [hname] at hdot
  obtain rfl := Option.some.inj hdot
  rw [← isNameStart_eq_true_iff] at hc
  exact absurd hc (by decide)

/-! ### Numbers and strings

The checks go through a text from the left, while the rules are about places in it. For numbers the
two are close; for escapes they are not. -/

/-- A decimal number, with a sign or without. -/
def IntegerText (text : String) : Prop :=
  ∃ sign ∈ [[], ['+'], ['-']], ∃ digits, text.toList = sign ++ digits ∧ digits ≠ [] ∧
    ∀ d ∈ digits, IsDigit d

/-- Three digits stand behind every backslash. -/
def EscapedText (text : String) : Prop :=
  ∀ before after, text.toList = before ++ '\\' :: after →
    ∃ a b c rest, after = a :: b :: c :: rest ∧ IsDigit a ∧ IsDigit b ∧ IsDigit c

theorem isDigits_eq_true_iff {cs : List Char} :
    isDigits cs = true ↔ cs ≠ [] ∧ ∀ d ∈ cs, IsDigit d := by
  simp [isDigits, isDigit_eq_true_iff]

/-- Digits do not begin with a sign. -/
theorem isDecimalInteger_of_isDigits {cs : List Char} (h : isDigits cs = true) :
    isDecimalInteger cs = true := by
  unfold isDecimalInteger
  split
  · simp [isDigits] at h
  · simp [isDigits] at h
  · exact h

/-- The check of a number is the rule for numbers. There is at most one sign, and no digits are no
number. -/
theorem isDecimalInteger_eq_true_iff {text : String} :
    isDecimalInteger text.toList = true ↔ IntegerText text := by
  constructor
  · intro h
    unfold isDecimalInteger at h
    split at h
    · rename_i digits heq
      exact ⟨['+'], by simp, digits, heq, isDigits_eq_true_iff.1 h⟩
    · rename_i digits heq
      exact ⟨['-'], by simp, digits, heq, isDigits_eq_true_iff.1 h⟩
    · exact ⟨[], by simp, text.toList, rfl, isDigits_eq_true_iff.1 h⟩
  · rintro ⟨sign, hsign, digits, htext, hdigits⟩
    rw [htext]
    have hdigits' := isDigits_eq_true_iff.2 hdigits
    simp only [List.mem_cons, List.not_mem_nil, or_false] at hsign
    rcases hsign with rfl | rfl | rfl
    · exact isDecimalInteger_of_isDigits hdigits'
    · exact hdigits'
    · exact hdigits'

/-- The check goes from backslash to backslash, and no digit is one. -/
theorem isEscaped_eq_true_iff_forall {cs : List Char} :
    isEscaped cs = true ↔ ∀ before after, cs = before ++ '\\' :: after →
      ∃ a b c rest, after = a :: b :: c :: rest ∧ IsDigit a ∧ IsDigit b ∧ IsDigit c := by
  have hbackslash : ¬ IsDigit '\\' := by
    rw [← isDigit_eq_true_iff]
    decide
  fun_induction isEscaped cs with
  | case1 => simp
  | case2 a b c rest ih =>
    simp only [Bool.and_eq_true, isDigit_eq_true_iff]
    constructor
    · rintro ⟨⟨⟨ha, hb⟩, hc⟩, hrest⟩ before after heq
      -- the backslash is the first character, one of three digits, or in the rest
      rcases before with - | ⟨x, - | ⟨y, - | ⟨z, - | ⟨w, before⟩⟩⟩⟩
      · simp only [List.nil_append, List.cons.injEq, true_and] at heq
        exact ⟨a, b, c, rest, heq.symm, ha, hb, hc⟩
      · simp only [List.cons_append, List.nil_append, List.cons.injEq] at heq
        exact absurd (heq.2.1 ▸ ha) hbackslash
      · simp only [List.cons_append, List.nil_append, List.cons.injEq] at heq
        exact absurd (heq.2.2.1 ▸ hb) hbackslash
      · simp only [List.cons_append, List.nil_append, List.cons.injEq] at heq
        exact absurd (heq.2.2.2.1 ▸ hc) hbackslash
      · simp only [List.cons_append, List.cons.injEq] at heq
        exact ih.1 hrest before after heq.2.2.2.2
    · intro h
      obtain ⟨a', b', c', rest', heq, ha, hb, hc⟩ := h [] _ rfl
      obtain ⟨rfl, rfl, rfl, rfl⟩ := by simpa using heq
      refine ⟨⟨⟨ha, hb⟩, hc⟩, ih.2 fun before after hrest ↦ ?_⟩
      exact h ('\\' :: a :: b :: c :: before) after (by simp [hrest])
  | case3 rest hshort =>
    simp only [Bool.false_eq_true, false_iff]
    intro h
    obtain ⟨a, b, c, rest', heq, -⟩ := h [] rest rfl
    exact hshort a b c rest' heq
  | case4 x rest _ hx ih =>
    refine ih.trans ⟨?_, ?_⟩
    · intro h before after heq
      rcases before with - | ⟨y, before⟩
      · simp only [List.nil_append, List.cons.injEq] at heq
        exact absurd heq.1 hx
      · simp only [List.cons_append, List.cons.injEq] at heq
        exact h before after heq.2
    · exact fun h before after heq ↦ h (x :: before) after (by simp [heq])

theorem isEscaped_eq_true_iff {text : String} :
    isEscaped text.toList = true ↔ EscapedText text :=
  isEscaped_eq_true_iff_forall

/-! ### Words that hold an `@` -/

theorem Frame.not_mem_at (frame : Frame) : '@' ∉ frame.keyword.toList := by
  cases frame <;> decide

theorem ConstantType.not_mem_at (type : ConstantType) : '@' ∉ type.keyword.toList := by
  cases type <;> decide

theorem ConstantType.mem_all (type : ConstantType) : type ∈ all := by
  cases type <;> decide

theorem ConstantType.keyword_injective : Function.Injective keyword := by
  intro a b
  cases a <;> cases b <;> decide

/-- A word is cut at its first `@`, so the parts are those it was put together from. -/
theorem cutAt?_at {before : String} (h : '@' ∉ before.toList) (after : String) :
    Text.cutAt? '@' (before ++ "@" ++ after).toList = some (before.toList, after.toList) :=
  Text.cutAt?_eq_some_iff.2 ⟨by simp, h⟩

/-- A word has a frame exactly when the frame's keyword and an `@` stand in front. -/
theorem splitFrame?_eq_some_iff {word name : String} {frame : Frame} :
    splitFrame? word = some (frame, name) ↔ word = frame.keyword ++ "@" ++ name := by
  constructor
  · intro h
    simp only [splitFrame?, Option.bind_eq_bind, Option.bind_eq_some_iff, Prod.exists] at h
    obtain ⟨before, after, hcut, frame', hframe, heq⟩ := h
    obtain ⟨rfl, rfl⟩ : frame' = frame ∧ String.ofList after = name := by simpa using heq
    have hword := (Text.cutAt?_eq_some_iff.1 hcut).1
    rw [← String.toList_inj, hword, ← Frame.ofText?_eq_some_iff.1 hframe]
    simp
  · rintro rfl
    rw [splitFrame?, cutAt?_at frame.not_mem_at]
    simp [Frame.ofText?_eq_some_iff.2 rfl]

/-- A word is a variable exactly when it is the variable's text. -/
theorem Variable.ofText?_eq_some_iff {word : String} {v : Variable} :
    ofText? word = some v ↔ word = v.text := by
  simp only [ofText?, Option.bind_eq_bind, Option.bind_eq_some_iff, Prod.exists,
    splitFrame?_eq_some_iff]
  constructor
  · rintro ⟨frame, name, rfl, hv⟩
    obtain ⟨hname, hv⟩ := Option.dite_none_right_eq_some.1 hv
    obtain rfl := Option.some.inj hv
    rfl
  · rintro rfl
    exact ⟨v.frame, v.name, rfl, dif_pos v.name_isIdentifier⟩

/-- No word has two tags. -/
theorem ConstantType.eq_of_tag {type type' : ConstantType} {body body' : String}
    (h : type.keyword ++ "@" ++ body = type'.keyword ++ "@" ++ body') :
    type = type' ∧ body = body' := by
  have hcut := cutAt?_at type.not_mem_at body
  rw [h, cutAt?_at type'.not_mem_at] at hcut
  obtain ⟨hkeyword, hbody⟩ := Prod.mk.inj (Option.some.inj hcut)
  exact ⟨keyword_injective (String.toList_inj.1 hkeyword.symm), String.toList_inj.1 hbody.symm⟩

/-- No constant has a frame. -/
theorem splitFrame?_constant (type : ConstantType) (body : String) :
    splitFrame? (type.keyword ++ "@" ++ body) = none := by
  have hframe : Frame.ofText? type.keyword = none := by cases type <;> decide
  rw [splitFrame?, cutAt?_at type.not_mem_at]
  simp [hframe]

/-! ### Constants

A constant is its tag and its body. What each type asks of the body is asked in one place, and which
type it is has been decided by the tag. -/

/-- The digits of a number form one, and the backslashes of a string introduce escapes. -/
def Constant.WellFormed : Constant → Prop
  | int digits => IntegerText digits
  | string body => EscapedText body
  | bool _ | nil => True

/-- A body is read as a constant of the type exactly when it is the body of one that is well-formed.
A number is kept as it is written, so the bodies `007` and `7` are read as two constants. -/
theorem ConstantType.read_eq_ok_iff {type : ConstantType} {body : String} {c : Constant} :
    type.read body = .ok c ↔ c.type = type ∧ c.body = body ∧ c.WellFormed := by
  constructor
  · intro h
    cases type with
    | int =>
      rw [read] at h
      split at h
      · cases h
        exact ⟨rfl, rfl, isDecimalInteger_eq_true_iff.1 ‹_›⟩
      · cases h
    | string =>
      rw [read] at h
      split at h
      · cases h
        exact ⟨rfl, rfl, isEscaped_eq_true_iff.1 ‹_›⟩
      · cases h
    | bool =>
      simp only [read] at h
      split at h
      · cases h
        exact ⟨rfl, (‹body = "true"›).symm, trivial⟩
      split at h
      · cases h
        exact ⟨rfl, (‹body = "false"›).symm, trivial⟩
      · cases h
    | nil =>
      rw [read] at h
      split at h
      · cases h
        exact ⟨rfl, (‹body = "nil"›).symm, trivial⟩
      · cases h
  · rintro ⟨rfl, rfl, h⟩
    rcases c with digits | value | body | -
    · exact if_pos (isDecimalInteger_eq_true_iff.2 h)
    · cases value <;> rfl
    · exact if_pos (isEscaped_eq_true_iff.2 h)
    · rfl

/-- The tag alone decides as which type a word is read, whichever types are tried before. -/
theorem Constant.parseAs_tag {types : List ConstantType} {type : ConstantType}
    (htype : type ∈ types) (body : String) :
    parseAs types (type.keyword ++ "@" ++ body) = type.read body := by
  have hbody : type.body? (type.keyword ++ "@" ++ body) = some body :=
    ConstantType.body?_eq_some_iff.2 rfl
  have hfind : (types.findSome? fun t ↦
      (t.body? (type.keyword ++ "@" ++ body)).map t.read) = some (type.read body) := by
    refine findSome?_eq_some_of_unique htype (by rw [hbody]; rfl) fun type' _ result hresult ↦ ?_
    obtain ⟨body', hbody', rfl⟩ := Option.map_eq_some_iff.1 hresult
    obtain ⟨rfl, rfl⟩ := ConstantType.eq_of_tag (ConstantType.body?_eq_some_iff.1 hbody')
    rfl
  rw [parseAs, hfind]

/-- A tag is among those that are tried, so it decides. -/
theorem Constant.parse_tag (type : ConstantType) (body : String) :
    parse (type.keyword ++ "@" ++ body) = type.read body :=
  parseAs_tag type.mem_all body

/-- A word is read as a constant exactly when it is one, well-formed, written out. -/
theorem Constant.parse_eq_ok_iff {word : String} {c : Constant} :
    parse word = .ok c ↔ word = c.text ∧ c.WellFormed := by
  constructor
  · intro h
    rw [parse, parseAs] at h
    split at h
    · rename_i result hfind
      obtain ⟨type, -, hresult⟩ := List.exists_of_findSome?_eq_some hfind
      obtain ⟨body, hbody, rfl⟩ := Option.map_eq_some_iff.1 hresult
      obtain ⟨rfl, rfl, hc⟩ := ConstantType.read_eq_ok_iff.1 h
      exact ⟨ConstantType.body?_eq_some_iff.1 hbody, hc⟩
    · cases h
  · rintro ⟨rfl, hc⟩
    rw [text, parse_tag]
    exact ConstantType.read_eq_ok_iff.2 ⟨rfl, rfl, hc⟩

end IppCode
