import IppCode.Proofs.Scan.Answers

/-!
# How many calls a source takes

Every call of `Scanner.nextToken` takes characters off the text ahead, unless there are none left
(`Scanner.consumes_behind`), whether it answers with a token or with a failure. One call is answered
for each word and each control character of the source, and the next with the end of the stream
(`Scanner.answer_isEnd_iff`, `Cursor.exists_words_controls`).

A scanner that is finished consumes nothing any more. So that no call may consume nothing while text
is ahead, it has to be known that a finished scanner is at the end of the text (`Scanner.Spent`).
This is not true of every scanner: `Scanner.next` finishes one at a failure, with text still ahead.
It is true of those that only `nextToken` has been called on.

The numbers are those of the source, and not of the calls. `Item.Listed` asks of a list that it
holds every item with a property, and each of them once, so its length is how many there are; there
is no need to say how they are found.
-/

namespace IppCode

/-! ### What a call consumes

What is left of the text is compared before and after a call. It is always a suffix, and shorter as
long as there is anything. -/

/-- A step takes a piece off the front of the text. -/
theorem Cursor.rest_next_suffix (cursor : Cursor) : cursor.next.2.rest <:+ cursor.rest := by
  induction cursor using induction with
  | nil offset line first => rw [next_nil]
  | newline rest offset line first ih =>
    rw [next_newline]
    exact ih.trans (List.suffix_cons _ _)
  | comment rest offset line first ih =>
    rw [next_comment]
    exact ih.trans (List.dropWhile_suffix _)
  | blank c rest offset line first hc ih =>
    rw [next_blank hc]
    exact ih.trans (List.dropWhile_suffix _)
  | stray c rest offset line first hc ih =>
    rw [next_stray hc]
    exact List.suffix_cons c rest
  | word c rest offset line first hc ih =>
    rw [next_word hc]
    exact List.dropWhile_suffix _

namespace Scanner

/-- The scanner behind so many calls of `nextToken`. -/
def behind (scanner : Scanner) : Nat → Scanner
  | 0 => scanner
  | n + 1 => scanner.nextToken.2.behind n

/-- A call behind others has its answer from the scanner behind them. -/
theorem nextToken_behind (scanner : Scanner) (n : Nat) :
    (scanner.behind n).nextToken = (scanner.answer n, scanner.behind (n + 1)) := by
  induction n generalizing scanner with
  | zero => rfl
  | succ n ih => exact ih scanner.nextToken.2

/-- From one scanner to the other a piece of the text is consumed, with at least one character in
it, or all that was left. -/
def Consumes (scanner after : Scanner) : Prop :=
  ∃ taken, scanner.cursor.rest = taken ++ after.cursor.rest ∧
    (taken ≠ [] ∨ after.cursor.rest = [])

/-- If the scanner is finished, no text is left. -/
def Spent (scanner : Scanner) : Prop :=
  scanner.finished = true → scanner.cursor.rest = []

variable {scanner : Scanner}

/-- A call consumes text, and does not finish the scanner as long as there is any. -/
theorem Spent.consumes_nextToken (h : scanner.Spent) :
    scanner.Consumes scanner.nextToken.2 ∧ scanner.nextToken.2.Spent := by
  obtain ⟨cursor, - | -⟩ := scanner
  · obtain ⟨taken, htaken⟩ := cursor.rest_next_suffix
    rcases hnext : cursor.next with ⟨- | item, after⟩
    · have hrest := Cursor.rest_of_next_eq_none hnext
      rw [nextToken, read_of_next_eq_none hnext]
      exact ⟨⟨cursor.rest, by rw [hrest, List.append_nil], .inr hrest⟩, fun _ ↦ hrest⟩
    · have hlt := Cursor.length_rest_next hnext
      rw [hnext] at htaken
      rw [nextToken, read_of_next_eq_some hnext, readLexeme_after]
      refine ⟨⟨taken, htaken.symm, .inl ?_⟩, fun h ↦ absurd h Bool.false_ne_true⟩
      rintro rfl
      exact absurd (congrArg List.length htaken) (Nat.ne_of_lt hlt)
  · rw [nextToken_of_finished rfl]
    exact ⟨⟨[], rfl, .inr (h rfl)⟩, h⟩

/-- However many calls there were, the scanner is not finished before its text is. -/
theorem spent_behind (source : String) (n : Nat) : ((ofSource source).behind n).Spent := by
  induction n with
  | zero => exact fun h ↦ absurd h Bool.false_ne_true
  | succ n ih =>
    have hspent := ih.consumes_nextToken.2
    rwa [nextToken_behind] at hspent

/-- Every call consumes text, or leaves none. -/
theorem consumes_behind (source : String) (n : Nat) :
    ((ofSource source).behind n).Consumes ((ofSource source).behind (n + 1)) := by
  have hconsumes := (spent_behind source n).consumes_nextToken.1
  rwa [nextToken_behind] at hconsumes

/-! ### How many calls have an answer of their own

Words and control characters are counted in the source and not in the answers. Each is answered
once, so the two counts are the same. -/

/-- The end of the stream is answered behind the lexemes, and not before. -/
theorem answer_isEnd_iff (source : String) (n : Nat) :
    (∃ line, (ofSource source).answer n = .ok ⟨.endOfStream, line⟩) ↔
      (Cursor.start source).items.length ≤ n := by
  rw [ofSource, answer_eq, List.getElem?_map]
  rcases hitem : (Cursor.start source).items[n]? with - | item
  · exact iff_of_true ⟨_, rfl⟩ (List.getElem?_eq_none_iff.1 hitem)
  · refine iff_of_false ?_ (Nat.not_le.2 (List.getElem?_eq_some_iff.1 hitem).1)
    rintro ⟨line, hend⟩
    have hopen : Token.isEnd ⟨.endOfStream, line⟩ = false := Located.isEnd_of_result_eq_ok hend
    cases hopen

end Scanner

/-- The items are those with the property, each of them once. -/
structure Item.Listed (p : Item → Prop) (items : List Item) : Prop where
  /-- No item is in the list twice. -/
  sorted : items.Pairwise fun item later ↦ item.start < later.start
  /-- All items with the property are in it, and no others. -/
  mem_iff : ∀ item, item ∈ items ↔ p item

/-- No word is a control character. -/
theorem Item.IsControl.not_isWord {source : List Char} {item : Item} {c : Char}
    (h : item.IsControl source c) : ¬ item.IsWord source := by
  intro hword
  have hmem : c ∈ item.text := by rw [h.text_eq, List.mem_singleton]
  exact (hword.chars c hmem).1 h.control

/-- There is one lexeme to each word and to each control character. -/
theorem Cursor.exists_words_controls (source : String) :
    ∃ words controls, Item.Listed (fun item ↦ item.IsWord source.toList) words ∧
      Item.Listed (fun item ↦ ∃ c, item.IsControl source.toList c) controls ∧
      (Cursor.start source).items.length = words.length + controls.length := by
  classical
  obtain ⟨items, hitems, hmatch⟩ := (Cursor.behind_start source).exists_items
  have hmem : ∀ item : Item, item ∈ items ↔ item.IsItem source.toList := fun item ↦
    (hitems.mem_iff item).trans (and_iff_left (Nat.zero_le _))
  refine ⟨items.filter (·.IsWord source.toList), items.filter (! ·.IsWord source.toList),
    ⟨hitems.sorted.filter _, fun item ↦ ?_⟩, ⟨hitems.sorted.filter _, fun item ↦ ?_⟩, ?_⟩
  · rw [List.mem_filter, hmem, decide_eq_true_iff]
    exact and_iff_right_of_imp .inr
  · rw [List.mem_filter, hmem, Bool.not_eq_true', decide_eq_false_iff_not]
    constructor
    · rintro ⟨hcontrol | hword, hnot⟩
      · exact hcontrol
      · exact absurd hword hnot
    · rintro ⟨c, hcontrol⟩
      exact ⟨.inl ⟨c, hcontrol⟩, hcontrol.not_isWord⟩
  · rw [← hmatch.length_eq]
    exact items.length_eq_length_filter_add _

end IppCode
