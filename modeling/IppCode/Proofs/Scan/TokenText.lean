import IppCode.Proofs.Scan.Answers

/-!
# What tokens keep of the text

A token is quoted as the word that it was scanned from, but for the header and the opcodes, which
are quoted in the case of the letters that the language defines. So diagnostics show the user what
he wrote. Nothing of it is lost on the way: the text of a token, taken for a word in the same place,
gives the token again (`TokenKind.Keeps`).

For a word this is `TokenKind.keeps_of_ofWord`, by the three ways in which a word becomes a token
(`TokenKind.text_of_ofWord`). `Scanner.tokens_keep_text` says it of all the words of a source.
-/

namespace IppCode

namespace TokenKind

/-- The token has the text of the word, and stands for the same token again in its place, where
`first` says whether it is the first of its line. -/
structure Keeps (first : Prop) (word : String) (kind : TokenKind) : Prop where
  /-- The header and the opcodes have the text up to the case of ASCII letters, … -/
  sameIgnoringCase : Text.sameIgnoringCase kind.text word = true
  /-- … and all else has it as it stands. -/
  text_eq : kind ≠ header → (∀ op, kind ≠ opcode op) → kind.text = word
  /-- A variable is the text in front of the `@` and the text behind it. -/
  var : ∀ v, kind = .var v →
    v.frame.keyword ++ "@" ++ v.name = word ∧ Variable.ofText? word = some v
  /-- What the token is quoted as is taken for it again. -/
  again : ∀ leading : Bool, (leading = true ↔ first) → ofWord kind.text leading = .ok kind

/-- What a word is taken for keeps the word, up to the case of keywords. -/
theorem keeps_of_ofWord {word : String} {first : Bool} {kind : TokenKind}
    (h : ofWord word first = .ok kind) : kind.Keeps (first = true) word := by
  rcases text_of_ofWord h with
    ⟨rfl, hheader⟩ | ⟨op, rfl, hfirst, hword⟩ | ⟨htext, hne, hop⟩
  · refine ⟨?_, fun hne ↦ absurd rfl hne, nofun, fun leading _ ↦ ?_⟩
    · exact Text.sameIgnoringCase_iff.2 (Text.sameIgnoringCase_iff.1 hheader).symm
    · exact ofWord_eq_header_iff.2 (Text.sameIgnoringCase_refl headerText)
  · refine ⟨hword, fun _ hne ↦ absurd rfl (hne op), nofun, fun leading hleading ↦ ?_⟩
    exact ofWord_eq_opcode_iff.2
      ⟨hleading.2 hfirst, Text.sameIgnoringCase_refl op.mnemonic⟩
  · refine ⟨htext ▸ Text.sameIgnoringCase_refl _, fun _ _ ↦ htext, ?_, fun leading hleading ↦ ?_⟩
    · rintro v rfl
      exact ⟨htext, Variable.ofText?_eq_some_iff.2 htext.symm⟩
    · rw [htext, Bool.eq_iff_iff.2 hleading, h]

end TokenKind

/-- The token that a lexeme is taken for has the text of the item that the lexeme is. -/
theorem Item.Matches.keeps {source : List Char} {item : Item} {located : Located} {token : Token}
    (h : item.Matches source located) (htoken : located.result = .ok token) :
    item.IsWord source ∧
      token.kind.Keeps (item.IsFirst source) (String.ofList item.text) := by
  obtain ⟨lexeme, line, start, stop⟩ := located
  obtain ⟨-, ⟨c, -, rfl⟩ | ⟨hword, first, rfl, hfirst⟩⟩ := h
  · cases htoken
  · rw [Located.result, TokenKind.ofLexeme] at htoken
    rcases hkind : TokenKind.ofWord (String.ofList item.text) first with fault | kind
    · rw [hkind] at htoken
      cases htoken
    · rw [hkind] at htoken
      obtain rfl := Except.ok.inj htoken
      have hkeeps := TokenKind.keeps_of_ofWord hkind
      rw [propext hfirst] at hkeeps
      exact ⟨hword, hkeeps⟩

namespace Scanner

/-- **Tokens keep the text of their words.** Every word of the source that is taken for a token can
be told from the token, but for the case of the letters of keywords. What the token is quoted as
would be taken for the same token in its place, so diagnostics can be read as a piece of the
program. -/
theorem tokens_keep_text (source : String) :
    ∃ items : List Item,
      items.Pairwise (fun item later ↦ item.start < later.start) ∧
      (∀ item, item ∈ items ↔ item.IsItem source.toList) ∧
      (∀ n (hn : n < items.length) token, (ofSource source).answer n = .ok token →
        items[n].IsWord source.toList ∧
          token.kind.Keeps (items[n].IsFirst source.toList) (String.ofList items[n].text)) ∧
      ∀ word v, Variable.ofText? word = some v →
        Variable.ofText? v.text = some v ∧ Identifier v.name ∧ '@' ∉ v.name.toList := by
  obtain ⟨items, hitems, hmatch⟩ := (Cursor.behind_start source).exists_items
  refine ⟨items, hitems.sorted, fun item ↦ ?_, fun n hn token htoken ↦ ?_, fun word v _ ↦ ?_⟩
  · rw [hitems.mem_iff]
    exact and_iff_left (Nat.zero_le _)
  · have hn' : n < (Cursor.start source).items.length := hmatch.length_eq ▸ hn
    rw [ofSource, answer_eq, List.getElem?_map, List.getElem?_eq_getElem hn'] at htoken
    exact (hmatch.get hn hn').keeps htoken
  · have hname : Identifier v.name := isIdentifier_eq_true_iff.1 v.name_isIdentifier
    exact ⟨Variable.ofText?_eq_some_iff.2 rfl, hname, hname.not_mem_at⟩

end Scanner

end IppCode
