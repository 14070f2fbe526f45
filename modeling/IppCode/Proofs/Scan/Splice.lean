import IppCode.Proofs.Scan.Items

/-!
# Changing what stands behind a word

What is read up to a word depends on the text up to that word, and on what stands behind it only in
that it is no part of the word. So a beginning of the lexemes that ends in a word can be kept while
the text behind it is replaced (`exists_splice`).

The text is cut where the cursor stands behind the last word to keep. A cut elsewhere would not do:
within a comment or a word, what follows would be read as part of it.

What comes in front of the word may hold comments and blanks, and a comment goes up to its newline.
This is no part of the comment, but it stands in front of the word and is kept, and so the comment
is as long as it was. In general a run in front of what is kept ends where it did, since the
character that ended it is still there (`exists_rest_eq_of_skip`); only the run of the word itself
ends with the text that is kept, and there the new text has to take over.
-/

namespace IppCode

/-- The text does not go on with a word. -/
def EndsWord (text : List Char) : Prop :=
  ∀ c ∈ text.head?, isWordChar c = false

/-! ### Runs in front of another text

A run that is cut short by the end of the text that is kept goes on in the new text, unless that
begins with another sort of character. -/

section Runs

variable {p : Char → Bool} {more : List Char}

theorem takeWhile_takeWhile_append (hmore : ∀ c ∈ more.head?, p c = false) (cs : List Char) :
    (cs.takeWhile p ++ more).takeWhile p = cs.takeWhile p :=
  takeWhile_append_of_head? (fun _ ↦ List.mem_takeWhile_imp) hmore

theorem dropWhile_takeWhile_append (hmore : ∀ c ∈ more.head?, p c = false) (cs : List Char) :
    (cs.takeWhile p ++ more).dropWhile p = more := by
  rw [List.dropWhile_append_of_pos fun c ↦ List.mem_takeWhile_imp]
  rcases more with - | ⟨c, more⟩
  · rfl
  · exact List.dropWhile_cons_of_neg (by simp [hmore c rfl])

end Runs

namespace Cursor

variable {cursor behind : Cursor}

/-- A run in front of a text that does not go on with it is skipped, whatever the text is. -/
theorem skip_takeWhile_append {p : Char → Bool} {cs more : List Char} {offset line : Nat}
    {first : Bool} (hmore : ∀ c ∈ more.head?, p c = false) :
    skip p ⟨cs.takeWhile p ++ more, offset, line, first⟩ =
      { skip p ⟨cs, offset, line, first⟩ with rest := more } := by
  rw [skip, takeWhile_takeWhile_append hmore, dropWhile_takeWhile_append hmore]
  rfl

/-- A word in front of a text that does not go on with it is taken, whatever the text is. -/
theorem takeWord_takeWhile_append {cs more : List Char} {offset line : Nat} {first : Bool}
    (hmore : EndsWord more) :
    takeWord ⟨cs.takeWhile isWordChar ++ more, offset, line, first⟩ =
      ((takeWord ⟨cs, offset, line, first⟩).1,
        { (takeWord ⟨cs, offset, line, first⟩).2 with rest := more }) := by
  rw [takeWord, skip_takeWhile_append hmore, takeWhile_takeWhile_append hmore]
  rfl

/-- The run that is skipped, and what is left in front. -/
theorem exists_rest_eq_of_skip {p : Char → Bool} {cs taken later : List Char}
    (h : cs.dropWhile p = taken ++ later) (htaken : taken ≠ []) (more : List Char) :
    cs = (cs.takeWhile p ++ taken) ++ later ∧
      ∀ c ∈ (taken ++ more).head?, p c = false := by
  refine ⟨?_, ?_⟩
  · rw [List.append_assoc, ← h, List.takeWhile_append_dropWhile]
  · obtain ⟨x, xs, rfl⟩ := List.exists_cons_of_ne_nil htaken
    have hhead := head?_dropWhile_eq_false p cs
    rwa [h] at hhead

/-- What is read up to a word depends on the text up to it only. -/
theorem exists_splice_next {text : String} {first : Bool} {line start stop : Nat}
    (h : cursor.next = (some ⟨.word text first, line, start, stop⟩, behind)) :
    EndsWord behind.rest ∧ behind.line = line ∧ behind.atLineStart = false ∧
      ∃ taken, taken ≠ [] ∧ cursor.rest = taken ++ behind.rest ∧
        ∀ more, EndsWord more →
          next { cursor with rest := taken ++ more } =
            (some ⟨.word text first, line, start, stop⟩, { behind with rest := more }) := by
  -- along what is passed over up to the word; the step of each case takes its run off in both texts
  induction cursor using Cursor.induction with
  | nil offset line first =>
    rw [next_nil] at h
    cases h
  | newline rest offset line first ih =>
    rw [next_newline] at h
    obtain ⟨hends, hline, hfirst, taken, htaken, hrest, hmore⟩ := ih h
    refine ⟨hends, hline, hfirst, '\n' :: taken, by simp, congrArg _ hrest, fun more hword ↦ ?_⟩
    exact next_newline.trans (hmore more hword)
  | comment rest offset line first ih =>
    rw [next_comment] at h
    obtain ⟨hends, hline, hfirst, taken, htaken, hrest, hmore⟩ := ih h
    have htext := fun more ↦ exists_rest_eq_of_skip hrest htaken more
    refine ⟨hends, hline, hfirst, _ ++ taken, by simp, (htext []).1,
      fun more hword ↦ ?_⟩
    refine Eq.trans ?_ (hmore more hword)
    show next ⟨(('#' :: rest).takeWhile (· ≠ '\n') ++ taken) ++ more, offset, line, first⟩ = _
    rw [List.append_assoc, List.takeWhile_cons_of_pos (by simp), List.cons_append, next_comment,
      ← List.cons_append, ← List.takeWhile_cons_of_pos (p := (· ≠ '\n')) (by simp),
      skip_takeWhile_append (htext more).2]
  | blank c rest offset line first hc ih =>
    rw [next_blank hc] at h
    obtain ⟨hends, hline, hfirst, taken, htaken, hrest, hmore⟩ := ih h
    have htext := fun more ↦ exists_rest_eq_of_skip hrest htaken more
    refine ⟨hends, hline, hfirst, _ ++ taken, by simp [htaken], (htext []).1,
      fun more hword ↦ ?_⟩
    refine Eq.trans ?_ (hmore more hword)
    show next ⟨((c :: rest).takeWhile isBlank ++ taken) ++ more, offset, line, first⟩ = _
    rw [List.append_assoc, List.takeWhile_cons_of_pos hc, List.cons_append, next_blank hc,
      ← List.cons_append, ← List.takeWhile_cons_of_pos hc, skip_takeWhile_append (htext more).2]
  | stray c rest offset line first hc ih =>
    rw [next_stray hc] at h
    cases h
  | word c rest offset line first hc ih =>
    rw [next_word hc] at h
    cases h
    refine ⟨head?_dropWhile_eq_false _ _, rfl, rfl, (c :: rest).takeWhile isWordChar, by simp [hc],
      List.takeWhile_append_dropWhile.symm, fun more hword ↦ ?_⟩
    have hnext : next ⟨c :: (rest.takeWhile isWordChar ++ more), offset, line, first⟩ = _ :=
      next_word hc
    rw [← List.cons_append, ← List.takeWhile_cons_of_pos hc, takeWord_takeWhile_append hword]
      at hnext
    exact hnext

/-- **A beginning of the lexemes that consists of words can be kept while what stands behind it is
replaced.** The cursor behind it is on the line of its last word. -/
theorem exists_splice {first later : List Located} (hitems : cursor.items = first ++ later)
    (hwords : ∀ item ∈ first, ∃ text atStart, item.lexeme = .word text atStart) :
    ∃ (taken : List Char) (behind : Cursor), cursor.rest = taken ++ behind.rest ∧
      behind.line = (first.map Located.line).getLastD cursor.line ∧
      behind.atLineStart = (first.isEmpty && cursor.atLineStart) ∧
      ∀ more, EndsWord more →
        items { cursor with rest := taken ++ more } =
          first ++ items { behind with rest := more } := by
  induction first generalizing cursor with
  | nil => exact ⟨[], cursor, rfl, rfl, by simp, fun more _ ↦ rfl⟩
  | cons item first ih =>
    rcases hnext : cursor.next with ⟨- | item', behind⟩
    · rw [items_of_next_eq_none hnext] at hitems
      cases hitems
    rw [items_of_next_eq_some hnext] at hitems
    obtain ⟨rfl, hlater⟩ := List.cons.inj hitems
    obtain ⟨text, atStart, hlexeme⟩ := hwords item' List.mem_cons_self
    obtain ⟨lexeme, line, start, stop⟩ := item'
    obtain rfl : lexeme = .word text atStart := hlexeme
    obtain ⟨hends, hline, hfirst, taken, -, hrest, hmore⟩ := exists_splice_next hnext
    obtain ⟨taken', behind', hrest', hline', hfirst', hmore'⟩ :=
      ih hlater fun item hitem ↦ hwords item (List.mem_cons_of_mem _ hitem)
    have hword : ∀ more, EndsWord more → EndsWord (taken' ++ more) := by
      intro more hword
      rcases taken' with - | ⟨c, cs⟩
      · exact hword
      · rw [hrest'] at hends
        exact hends
    refine ⟨taken ++ taken', behind', ?_, ?_, ?_, fun more hends' ↦ ?_⟩
    · rw [hrest, hrest', List.append_assoc]
    · rw [hline', hline, List.map_cons, List.getLastD_cons]
    · rw [hfirst', hfirst, Bool.and_false]
      rfl
    · have hstep := hmore (taken' ++ more) (hword more hends')
      rw [← List.append_assoc] at hstep
      rw [items_of_next_eq_some hstep, hmore' more hends']
      rfl

end Cursor

end IppCode
