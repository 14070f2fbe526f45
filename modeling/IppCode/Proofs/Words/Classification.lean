import IppCode.Proofs.Words.Operand

/-!
# What words are taken for

The rules by which a word is taken for a token, read off its text and off whether it is the first of
its line (`Classified`). The rules exclude one another, and one of them applies to every word:
`ofWord_eq_iff` says that they give exactly what `TokenKind.ofWord` does.

Only a word behind the first of its line fails, and only as a variable without a proper name
(`ofWord_eq_error_iff`).

The rules say what a word has to be, and the tests are made one after the other, where each may rely
on those before it having failed. Two of the rules spell this out: what is left for a label is no
header, no mnemonic in the first place, no name of a type, and holds no `@`. The others need no such
clause. A word that is the header holds no `@` and is no mnemonic, since the keywords are different.

A frame in front of an `@` decides even if what stands behind it is no name. Such a word is never a
constant, also where no variable is meant.
-/

namespace IppCode

/-- What a word is taken for, where `first` says whether it is the first of its line. -/
inductive Classified (first : Prop) : String → Except LexicalFault TokenKind → Prop
  /-- The header is one wherever it stands. -/
  | header (word : String) (hword : Text.upperCase word = ".IPPCODE23") :
    Classified first word (.ok .header)
  /-- A mnemonic is one as the first word only. -/
  | opcode (word : String) (opcode : Opcode) (hfirst : first)
      (hword : Text.upperCase word = opcode.mnemonic) :
    Classified first word (.ok (.opcode opcode))
  /-- A frame, an `@` and a name are a variable. -/
  | var (v : Variable) (hname : Identifier v.name) :
    Classified first (v.frame.keyword ++ "@" ++ v.name) (.ok (.var v))
  /-- Without a proper name they are a label where an opcode belongs … -/
  | leadingBadName (frame : Frame) (name : String) (hfirst : first) (hname : ¬ Identifier name) :
    Classified first (frame.keyword ++ "@" ++ name)
      (.ok (.label (frame.keyword ++ "@" ++ name)))
  /-- … and no token elsewhere. -/
  | badName (frame : Frame) (name : String) (hfirst : ¬ first) (hname : ¬ Identifier name) :
    Classified first (frame.keyword ++ "@" ++ name)
      (.error (.invalidName name (frame.keyword ++ "@" ++ name)))
  /-- Other words with an `@` are constants. -/
  | constant (word : String) (hat : '@' ∈ word.toList)
      (hframe : ∀ (frame : Frame) (name : String), word ≠ frame.keyword ++ "@" ++ name) :
    Classified first word (.ok (.constant word))
  /-- The name of a type is one in lower case only. -/
  | type (t : TypeName) : Classified first t.keyword (.ok (.type t))
  /-- What is left is a label. -/
  | label (word : String) (hheader : Text.upperCase word ≠ ".IPPCODE23")
      (hopcode : first → ∀ opcode : Opcode, Text.upperCase word ≠ opcode.mnemonic)
      (hat : '@' ∉ word.toList) (htype : ∀ t : TypeName, word ≠ t.keyword) :
    Classified first word (.ok (.label word))

/-- No word is taken for the end. -/
theorem Classified.ne_endOfStream {first : Prop} {word : String} {kind : TokenKind}
    (h : Classified first word (.ok kind)) : kind ≠ .endOfStream := by
  rintro rfl
  cases h

/-! ### The rules and the search

The tests are gone through in their order, and at each the rule that applies is named. Since the
rules exclude one another, this proves both directions. -/

namespace TokenKind

variable {word : String} {first : Bool}

theorem ofWord_tagged (frame : Frame) (name : String) :
    ofWord (frame.keyword ++ "@" ++ name) first =
      ofTagged (frame.keyword ++ "@" ++ name) first :=
  ofWord_of_at (by simp)

/-- What a word with an `@` is tested for is what the rules say of it. -/
theorem ofTagged_classified {result : Except LexicalFault TokenKind} (hat : '@' ∈ word.toList)
    (h : ofTagged word first = result) : Classified (first = true) word result := by
  rw [ofTagged] at h
  split at h
  · rename_i frame name hsplit
    obtain rfl := splitFrame?_eq_some_iff.1 hsplit
    split at h
    · rename_i hname
      subst h
      exact .var ⟨frame, name, hname⟩ (isIdentifier_eq_true_iff.1 hname)
    · rename_i hname
      rw [isIdentifier_eq_true_iff] at hname
      split at h
      · rename_i hfirst
        subst h
        exact .leadingBadName frame name hfirst hname
      · rename_i hfirst
        subst h
        exact .badName frame name hfirst hname
  · rename_i hsplit
    subst h
    refine .constant word hat fun frame name hword ↦ ?_
    rw [splitFrame?_eq_some_iff.2 hword] at hsplit
    cases hsplit

/-- Every word is taken for something by one of the rules. -/
theorem ofWord_classified (word : String) (first : Bool) :
    Classified (first = true) word (ofWord word first) := by
  rcases hheader : Text.sameIgnoringCase word headerText with - | -
  case true =>
    rw [ofWord_eq_header_iff.2 hheader]
    exact .header word (upperCase_eq_headerText_iff.2 hheader)
  by_cases hat : '@' ∈ word.toList
  · rw [ofWord_of_at hat]
    exact ofTagged_classified hat rfl
  have hnot : Text.upperCase word ≠ ".IPPCODE23" := fun h ↦ by
    simp [upperCase_eq_headerText_iff.1 h] at hheader
  rw [ofWord_of_not_isHeader hheader]
  rcases hop : leadingOpcode? word first with - | op
  · simp only [if_neg hat]
    rcases htype : TypeName.ofText? word with - | t
    · refine .label word hnot (leadingOpcode?_eq_none_iff.1 hop) hat fun t ht ↦ ?_
      rw [TypeName.ofText?_eq_some_iff.2 ht] at htype
      cases htype
    · obtain rfl := TypeName.ofText?_eq_some_iff.1 htype
      exact .type t
  · obtain ⟨hfirst, hword⟩ := leadingOpcode?_eq_some_iff.1 hop
    exact .opcode word op hfirst hword

/-- **The rules determine what a word is taken for.** -/
theorem ofWord_eq_iff {result : Except LexicalFault TokenKind} :
    ofWord word first = result ↔ Classified (first = true) word result := by
  refine ⟨fun h ↦ h ▸ ofWord_classified word first, fun h ↦ ?_⟩
  -- every rule gives what the tests give, because the tests in front of its own fail
  cases h with
  | header _ hword => exact ofWord_eq_header_iff.2 (upperCase_eq_headerText_iff.1 hword)
  | opcode _ op hfirst hword =>
    exact ofWord_eq_opcode_iff.2 ⟨hfirst, upperCase_eq_mnemonic_iff.1 hword⟩
  | var v hname =>
    rw [ofWord_tagged, ofTagged, splitFrame?_eq_some_iff.2 rfl]
    exact dif_pos v.name_isIdentifier
  | leadingBadName frame name hfirst hname =>
    rw [← isIdentifier_eq_true_iff] at hname
    rw [ofWord_tagged, ofTagged, splitFrame?_eq_some_iff.2 rfl]
    exact (dif_neg hname).trans (if_pos hfirst)
  | badName frame name hfirst hname =>
    rw [← isIdentifier_eq_true_iff] at hname
    rw [ofWord_tagged, ofTagged, splitFrame?_eq_some_iff.2 rfl]
    exact (dif_neg hname).trans (if_neg hfirst)
  | constant _ hat hframe =>
    have hsplit : splitFrame? word = none := by
      rw [Option.eq_none_iff_forall_ne_some]
      rintro ⟨frame, name⟩ h
      exact hframe frame name (splitFrame?_eq_some_iff.1 h)
    rw [ofWord_of_at hat, ofTagged, hsplit]
  | type t => cases first <;> cases t <;> decide
  | label _ hheader hopcode hat htype =>
    have hheader' : Text.sameIgnoringCase word headerText = false := by
      rw [Bool.eq_false_iff]
      exact fun h ↦ hheader (upperCase_eq_headerText_iff.2 h)
    have htype' : TypeName.ofText? word = none :=
      Option.eq_none_iff_forall_ne_some.2 fun t h ↦ htype t (TypeName.ofText?_eq_some_iff.1 h)
    rw [ofWord_of_not_isHeader hheader', leadingOpcode?_eq_none_iff.2 hopcode, htype']
    exact if_neg hat

/-- A word fails exactly when it stands behind the first of its line and would be a variable, had
it a proper name. -/
theorem ofWord_eq_error_iff {fault : LexicalFault} :
    ofWord word first = .error fault ↔
      first = false ∧ ∃ (frame : Frame) (name : String), ¬ Identifier name ∧
        word = frame.keyword ++ "@" ++ name ∧ fault = .invalidName name word := by
  rw [ofWord_eq_iff]
  constructor
  · intro h
    cases h with
    | badName frame name hfirst hname => exact ⟨by simpa using hfirst, frame, name, hname, rfl, rfl⟩
  · rintro ⟨rfl, frame, name, hname, rfl, rfl⟩
    exact .badName frame name (by simp) hname

/-- The first word of a line is always some token. -/
theorem ofWord_leading (word : String) : ∃ kind, ofWord word true = .ok kind := by
  rcases hword : ofWord word true with fault | kind
  · have hfirst := (ofWord_eq_error_iff.1 hword).1
    cases hfirst
  · exact ⟨kind, rfl⟩

end TokenKind

end IppCode
