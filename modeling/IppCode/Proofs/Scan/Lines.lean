import IppCode.Proofs.Scan.Items

/-!
# Scanning line by line

A newline restarts the scan (`items_append_newline`): whatever stands before it, an open comment or
a word cut short included, has no bearing on what is read behind it, save for the line and the
offset. Within a line a comment is as good as the end of the line (`items_append_comment`), and what
is left consists of words, blanks and control characters.

Both statements are about a cursor with more text at the end (`Cursor.append`), and so nothing has
to be said of what stands in front of it. They hold because every run that the scanner takes ends in
front of the separator, and taking it is the same with the additional text and without
(`skip_append`, `takeWord_append`). The separator has to be one for all runs: a `#` ends words and
blanks and not comments, hence the condition that there is none before.

Lines of lexemes never go down (`pairwise_line_items`).
-/

namespace IppCode

namespace Cursor

/-- The cursor with more text at the end. -/
def append (cursor : Cursor) (tail : List Char) : Cursor :=
  { cursor with rest := cursor.rest ++ tail }

/-- The offset of the end of the text. -/
def endOffset (cursor : Cursor) : Nat :=
  cursor.offset + utf8Length cursor.rest

/-- What is skipped is counted. -/
theorem endOffset_skip (p : Char → Bool) (cursor : Cursor) :
    (cursor.skip p).endOffset = cursor.endOffset := by
  have hsplit : cursor.rest.takeWhile p ++ cursor.rest.dropWhile p = cursor.rest :=
    List.takeWhile_append_dropWhile
  have hlength := congrArg utf8Length hsplit
  rw [utf8Length_append] at hlength
  show cursor.offset + utf8Length (cursor.rest.takeWhile p) +
    utf8Length (cursor.rest.dropWhile p) = cursor.offset + utf8Length cursor.rest
  omega

theorem endOffset_takeWord (cursor : Cursor) : cursor.takeWord.2.endOffset = cursor.endOffset :=
  endOffset_skip isWordChar cursor

/-! ### Text behind a separator

A run that ends within the first text ends there with any text behind it. It does end there, since
the separator belongs to no run that is being taken. -/

section Append

variable {p : Char → Bool} {x : Char}

/-- A run ends in front of the separator, whatever comes behind that. -/
theorem skip_append (hx : p x = false) (tail : List Char) (cursor : Cursor) :
    (cursor.append (x :: tail)).skip p = (cursor.skip p).append (x :: tail) := by
  simp only [skip, append, takeWhile_append_cons_of_neg hx, dropWhile_append_cons_of_neg hx]

theorem takeWord_append (hx : isWordChar x = false) (tail : List Char) (cursor : Cursor) :
    (cursor.append (x :: tail)).takeWord =
      (cursor.takeWord.1, cursor.takeWord.2.append (x :: tail)) := by
  simp only [takeWord, skip_append hx]
  simp only [skip, append, takeWhile_append_cons_of_neg hx]

end Append

/-- **A newline restarts the scan.** What is read behind it is what a fresh scan reads there, on
later lines and at later offsets. -/
theorem items_append_newline (cursor : Cursor) (tail : List Char) :
    (cursor.append ('\n' :: tail)).items =
      cursor.items ++ items ⟨tail, cursor.endOffset + 1, cursor.lastLine + 1, true⟩ := by
  induction cursor using induction with
  | nil offset line first => simp [append, endOffset, lastLine]
  | newline rest offset line first ih =>
    show items ⟨'\n' :: (rest ++ '\n' :: tail), offset, line, first⟩ = _
    rw [items_newline, items_newline]
    refine ih.trans ?_
    have hsize : '\n'.utf8Size = 1 := by decide
    simp only [endOffset, lastLine, utf8Length_cons, List.count_cons_self, hsize]
    congr 3 <;> omega
  | comment rest offset line first ih =>
    show items ⟨'#' :: (rest ++ '\n' :: tail), offset, line, first⟩ = _
    rw [items_comment, items_comment]
    have hskip := skip_append (p := (· ≠ '\n')) (x := '\n') (by simp) tail
      ⟨'#' :: rest, offset, line, first⟩
    rw [endOffset_skip, lastLine_skip (by simp)] at ih
    exact (congrArg items hskip).trans ih
  | blank c rest offset line first hc ih =>
    show items ⟨c :: (rest ++ '\n' :: tail), offset, line, first⟩ = _
    rw [items_blank hc, items_blank hc]
    have hskip := skip_append isBlank_newline tail ⟨c :: rest, offset, line, first⟩
    rw [endOffset_skip, lastLine_skip isBlank_newline] at ih
    exact (congrArg items hskip).trans ih
  | stray c rest offset line first hc ih =>
    show items ⟨c :: (rest ++ '\n' :: tail), offset, line, first⟩ = _
    rw [items_stray hc, items_stray hc, List.cons_append]
    rw [lastLine_takeStray hc] at ih
    refine congrArg _ (ih.trans ?_)
    simp only [takeStray, endOffset, utf8Length_cons, Nat.add_assoc]
  | word c rest offset line first hc ih =>
    show items ⟨c :: (rest ++ '\n' :: tail), offset, line, first⟩ = _
    have htake := takeWord_append isWordChar_newline tail ⟨c :: rest, offset, line, first⟩
    rw [endOffset_takeWord, lastLine_takeWord] at ih
    rw [items_word hc, items_word hc, List.cons_append, ← ih]
    exact congrArg (fun taken : Located × Cursor ↦ taken.1 :: taken.2.items) htake

/-- A comment is as good as the end of its line. -/
theorem items_append_comment {comment : List Char} (hcomment : '\n' ∉ comment) (cursor : Cursor)
    (hrest : '#' ∉ cursor.rest) : (cursor.append ('#' :: comment)).items = cursor.items := by
  have hdrop : ('#' :: comment).dropWhile (· ≠ '\n') = [] := by
    rw [List.dropWhile_eq_nil_iff]
    intro c hc
    rcases List.mem_cons.1 hc with rfl | hc
    · decide
    · simpa using fun heq : c = '\n' ↦ hcomment (heq ▸ hc)
  induction cursor using induction with
  | nil offset line first =>
    show items ⟨'#' :: comment, offset, line, first⟩ = _
    rw [items_comment, skip, hdrop, items_nil, items_nil]
  | newline rest offset line first ih =>
    show items ⟨'\n' :: (rest ++ '#' :: comment), offset, line, first⟩ = _
    rw [items_newline, items_newline]
    exact ih fun hmem ↦ hrest (List.mem_cons_of_mem _ hmem)
  | comment rest offset line first ih => exact absurd List.mem_cons_self hrest
  | blank c rest offset line first hc ih =>
    show items ⟨c :: (rest ++ '#' :: comment), offset, line, first⟩ = _
    rw [items_blank hc, items_blank hc]
    have hskip := skip_append isBlank_hash comment ⟨c :: rest, offset, line, first⟩
    exact (congrArg items hskip).trans
      (ih fun hmem ↦ hrest ((List.dropWhile_sublist _).subset hmem))
  | stray c rest offset line first hc ih =>
    show items ⟨c :: (rest ++ '#' :: comment), offset, line, first⟩ = _
    rw [items_stray hc, items_stray hc]
    exact congrArg _ (ih fun hmem ↦ hrest (List.mem_cons_of_mem _ hmem))
  | word c rest offset line first hc ih =>
    show items ⟨c :: (rest ++ '#' :: comment), offset, line, first⟩ = _
    have htake := takeWord_append isWordChar_hash comment ⟨c :: rest, offset, line, first⟩
    rw [items_word hc, items_word hc,
      ← ih fun hmem ↦ hrest ((List.dropWhile_sublist _).subset hmem)]
    exact congrArg (fun taken : Located × Cursor ↦ taken.1 :: taken.2.items) htake

/-! ### Lines of lexemes

The line of a cursor only grows, and a lexeme has the line that the cursor has come to. -/

/-- No lexeme ahead is on an earlier line than the cursor. -/
theorem line_le_of_mem_items {cursor : Cursor} {item : Located} (h : item ∈ cursor.items) :
    cursor.line ≤ item.line := by
  induction cursor using induction with
  | nil offset line first => simp at h
  | newline rest offset line first ih =>
    rw [items_newline] at h
    exact Nat.le_of_succ_le (ih h)
  | comment rest offset line first ih => exact ih (items_comment ▸ h)
  | blank c rest offset line first hc ih => exact ih (items_blank hc ▸ h)
  | stray c rest offset line first hc ih =>
    rw [items_stray hc] at h
    rcases List.mem_cons.1 h with rfl | h
    · exact Nat.le_refl line
    · exact ih h
  | word c rest offset line first hc ih =>
    rw [items_word hc] at h
    rcases List.mem_cons.1 h with rfl | h
    · exact Nat.le_refl line
    · exact ih h

/-- No lexeme ahead is behind the last line. -/
theorem line_le_lastLine_of_mem_items {cursor : Cursor} {item : Located}
    (h : item ∈ cursor.items) : item.line ≤ cursor.lastLine := by
  induction cursor using induction with
  | nil offset line first => simp at h
  | newline rest offset line first ih =>
    rw [items_newline] at h
    refine (ih h).trans_eq ?_
    simp only [lastLine, List.count_cons_self]
    omega
  | comment rest offset line first ih =>
    exact (ih (items_comment ▸ h)).trans_eq (lastLine_skip (by simp) _)
  | blank c rest offset line first hc ih =>
    exact (ih (items_blank hc ▸ h)).trans_eq (lastLine_skip isBlank_newline _)
  | stray c rest offset line first hc ih =>
    rw [items_stray hc] at h
    rcases List.mem_cons.1 h with rfl | h
    · exact Nat.le_add_right line _
    · exact (ih h).trans_eq (lastLine_takeStray hc)
  | word c rest offset line first hc ih =>
    rw [items_word hc] at h
    rcases List.mem_cons.1 h with rfl | h
    · exact Nat.le_add_right line _
    · exact (ih h).trans_eq (lastLine_takeWord _)

/-- Lines of lexemes never go down. -/
theorem pairwise_line_items (cursor : Cursor) :
    cursor.items.Pairwise fun item later ↦ item.line ≤ later.line := by
  induction cursor using induction with
  | nil offset line first => simp
  | newline rest offset line first ih => rwa [items_newline]
  | comment rest offset line first ih => rwa [items_comment]
  | blank c rest offset line first hc ih => rwa [items_blank hc]
  | stray c rest offset line first hc ih =>
    rw [items_stray hc]
    exact List.pairwise_cons.2 ⟨fun later hlater ↦ line_le_of_mem_items hlater, ih⟩
  | word c rest offset line first hc ih =>
    rw [items_word hc]
    exact List.pairwise_cons.2 ⟨fun later hlater ↦ line_le_of_mem_items hlater, ih⟩

end Cursor

end IppCode
