import IppCode.Proofs.Scan.Reference
import IppCode.Proofs.Scan.Results
import IppCode.Proofs.Words.Classification

/-!
# What the scanner answers, call after call

`Scanner.answer` is what the call of `Scanner.nextToken` behind a number of others answers, failures
included. There is one answer to each item of the source, in order, and what it is depends on the
item alone (`Item.Answered`): on its characters, its line, and whether a word stands in front of it
on that line. Behind them all is the end of the stream, for ever.

The scanner delivers what the lexemes ahead of its cursor are taken for (`answer_eq`), the lexemes
are the items (`Cursor.Behind.exists_items`), and what a word is taken for follows the rules of
`Classified`.

So nothing that the scanner keeps between two calls has to be known in order to say what it answers.
In particular a failure leaves no trace: what comes behind it is answered as it would be otherwise,
and a word behind a control character is still the first of its line.
-/

namespace IppCode

namespace Scanner

/-- What the call of `nextToken` behind so many others answers. -/
def answer (scanner : Scanner) : Nat → Except Failure Token
  | 0 => scanner.nextToken.1
  | n + 1 => scanner.nextToken.2.answer n

theorem nextToken_of_finished {scanner : Scanner} (h : scanner.finished = true) :
    scanner.nextToken = (.ok scanner.endToken, scanner) := by
  rw [nextToken, read, if_pos h]

/-- A finished scanner stays at the end of the stream. -/
theorem answer_of_finished {scanner : Scanner} (h : scanner.finished = true) (n : Nat) :
    scanner.answer n = .ok scanner.endToken := by
  induction n with
  | zero => rw [answer, nextToken_of_finished h]
  | succ n ih => rw [answer, nextToken_of_finished h, ih]

/-- One answer to each lexeme ahead, and then the end on the last line. -/
theorem answer_eq (cursor : Cursor) (n : Nat) :
    answer ⟨cursor, false⟩ n =
      ((cursor.items.map Located.result)[n]?).getD (.ok ⟨.endOfStream, cursor.lastLine⟩) := by
  induction cursor using Cursor.items.induct generalizing n with
  | case1 cursor item behind hnext ih =>
    have hread : nextToken ⟨cursor, false⟩ = (item.result, ⟨behind, false⟩) := by
      rw [nextToken, read_of_next_eq_some hnext, readLexeme_result, readLexeme_after]
    rw [Cursor.items_of_next_eq_some hnext, ← Cursor.lastLine_of_next_eq hnext]
    rcases n with - | n
    · rw [answer, hread]
      rfl
    · rw [answer, hread, ih, List.map_cons, List.getElem?_cons_succ]
  | case2 cursor behind hnext =>
    have hline := Cursor.line_of_next_eq_none hnext
    have hread : nextToken ⟨cursor, false⟩ =
        (.ok ⟨.endOfStream, cursor.lastLine⟩, ⟨behind, true⟩) := by
      rw [nextToken, read_of_next_eq_none hnext, ← hline]
      rfl
    rw [Cursor.items_of_next_eq_none hnext]
    rcases n with - | n
    · rw [answer, hread]
      rfl
    · rw [answer, hread, answer_of_finished rfl, endToken, hline]
      rfl

end Scanner

/-! ### Answers to items

The rules for words are those of `Classified`, with the flag read off the source: no word stands in
front of the item on its line. -/

/-- What is answered to an item of the source. -/
inductive Item.Answered (source : List Char) (item : Item) : Except Failure Token → Prop
  /-- A control character is no part of any token. -/
  | control {c : Char} {failure : Failure} (h : item.IsControl source c)
      (hfailure : failure = .lexical item.line (.invalidCharacter c))
      (hmessage : failure.message =
        s!"line {item.line}: lexical error: " ++ s!"invalid character {Text.quotedAlone c}") :
    Answered source item (.error failure)
  /-- A word is taken for a token … -/
  | token {kind : TokenKind} (h : item.IsWord source)
      (hkind : Classified (item.IsFirst source) (String.ofList item.text) (.ok kind)) :
    Answered source item (.ok ⟨kind, item.line⟩)
  /-- … or fails. -/
  | badWord {fault : LexicalFault} (h : item.IsWord source)
      (hfault : Classified (item.IsFirst source) (String.ofList item.text) (.error fault)) :
    Answered source item (.error (.lexical item.line fault))

/-- The result of a lexeme is the answer to the item that it is. -/
theorem Item.Matches.answered {source : List Char} {item : Item} {located : Located}
    (h : item.Matches source located) : item.Answered source located.result := by
  obtain ⟨lexeme, line, start, stop⟩ := located
  obtain ⟨rfl, ⟨c, hcontrol, rfl⟩ | ⟨hword, first, rfl, hfirst⟩⟩ := h
  · exact .control hcontrol rfl rfl
  · have hclassified := TokenKind.ofWord_classified (String.ofList item.text) first
    rw [propext hfirst] at hclassified
    rw [Located.result, TokenKind.ofLexeme]
    rcases hkind : TokenKind.ofWord (String.ofList item.text) first with fault | kind
    · exact .badWord hword (hkind ▸ hclassified)
    · exact .token hword (hkind ▸ hclassified)

namespace Scanner

/-- **Every item of the source is answered to, once and in order**, whatever failed before, and then
comes the end of the stream on the last line, for ever. -/
theorem answers_to_items (source : String) :
    ∃ items : List Item,
      items.Pairwise (fun item later ↦ item.start < later.start) ∧
      (∀ item, item ∈ items ↔ item.IsItem source.toList) ∧
      (∀ n (hn : n < items.length),
        items[n].Answered source.toList ((ofSource source).answer n)) ∧
      ∀ n, items.length ≤ n →
        (ofSource source).answer n = .ok ⟨.endOfStream, 1 + source.toList.count '\n'⟩ := by
  obtain ⟨items, hitems, hmatch⟩ := (Cursor.behind_start source).exists_items
  have hlength : items.length = ((Cursor.start source).items.map Located.result).length := by
    rw [List.length_map, hmatch.length_eq]
  refine ⟨items, hitems.sorted, fun item ↦ ?_, fun n hn ↦ ?_, fun n hn ↦ ?_⟩
  · rw [hitems.mem_iff]
    exact and_iff_left (Nat.zero_le _)
  · have hn' : n < (Cursor.start source).items.length := hmatch.length_eq ▸ hn
    rw [ofSource, answer_eq, List.getElem?_map, List.getElem?_eq_getElem hn']
    exact (hmatch.get hn hn').answered
  · rw [ofSource, answer_eq, List.getElem?_eq_none (hlength ▸ hn)]
    rfl

end Scanner

end IppCode
