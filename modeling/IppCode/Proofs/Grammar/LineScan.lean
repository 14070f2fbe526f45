import IppCode.Proofs.Scan.Results
import IppCode.Proofs.Grammar.Program

/-!
# Scanning a source by its lines

What a source is scanned to, line by line: the lexemes of a source are those of its lines, each
without its comment (`items_eq_lineItems`). A line without control characters is scanned to its
words, of which the first is marked as such (`results_eq_wordResults`), and a control character in a
line is scanned to a failure (`exists_stray_mem_items`).

Main statements: `scan_eq_lineResults` for sources without control characters, and
`exists_error_mem_scan` for the others.

The scanner does not know of lines; it counts newlines as it comes upon them. So the lines are put
back together, with a newline between two of them, and the text is scanned piece by piece. This
works because nothing that is scanned goes over a newline: a comment and a word both end in front of
it.

The results of a line depend on its words and on its number, and not on its offset in the source.
Offsets are part of a lexeme, but no result mentions them, and the results of a word are stated with
the offsets 0 (`wordResult`).
-/

namespace IppCode

/-! ### Pieces between separators

The lists that splitting gives, in which no separator is left. This is needed for lines and for
words alike. -/

section Pieces

variable {α : Type} [DecidableEq α] {sep : α}

/-- No piece holds the separator. -/
theorem not_mem_of_mem_splitAt {xs piece : List α} (h : piece ∈ Text.splitAt sep xs) :
    sep ∉ piece := by
  induction xs generalizing piece with
  | nil =>
    obtain rfl := List.mem_singleton.1 h
    exact List.not_mem_nil
  | cons x xs ih =>
    rw [Text.splitAt] at h
    split at h
    · rcases List.mem_cons.1 h with rfl | h
      · exact List.not_mem_nil
      · exact ih h
    · rename_i hx
      obtain ⟨first, more, hsplit⟩ := List.exists_cons_of_ne_nil (Text.splitAt_ne_nil sep xs)
      rw [hsplit] at h ih
      rcases List.mem_cons.1 h with rfl | h
      · rintro (_ | ⟨_, hmem⟩)
        · exact hx rfl
        · exact ih List.mem_cons_self hmem
      · exact ih (List.mem_cons_of_mem _ h)

end Pieces

/-! ### One line

Within a line nothing restarts the scan, so its words are scanned one after the other, and only the
flag passes from one to the next. -/

/-- What a word on a line is scanned to. -/
def wordResult (line : Nat) (first : Bool) (word : String) : Except Failure Token :=
  Located.result ⟨.word word first, line, 0, 0⟩

/-- What the words of a line are scanned to. At most the first of them begins the line. -/
def wordResults (line : Nat) (first : Bool) : List String → List (Except Failure Token)
  | [] => []
  | word :: words => wordResult line first word :: words.map (wordResult line false)

theorem wordResults_false (line : Nat) (words : List String) :
    wordResults line false words = words.map (wordResult line false) := by
  cases words <;> rfl

/-- A character of a line without comments and control characters. -/
def IsPlain (c : Char) : Prop :=
  c ≠ '\n' ∧ c ≠ '#' ∧ isStray c = false

/-- On such a line only blanks separate words. -/
theorem IsPlain.isBlank_of_not_isWordChar {c : Char} (h : IsPlain c)
    (hword : isWordChar c = false) : isBlank c = true := by
  obtain ⟨hnewline, hhash, hstray⟩ := h
  by_contra hblank
  rw [isWordChar_eq_true_iff.2 ⟨hnewline, hhash, by simpa using hblank, hstray⟩] at hword
  cases hword

theorem isPlain_of_isWordChar {c : Char} (h : isWordChar c = true) : IsPlain c :=
  have ⟨hnewline, hhash, _, hstray⟩ := isWordChar_eq_true_iff.1 h
  ⟨hnewline, hhash, hstray⟩

theorem isPlain_space : IsPlain ' ' :=
  ⟨by decide, by decide, by decide⟩

/-- A word is the only one of its text. -/
theorem words_toList {word : String} (hne : word.toList ≠ [])
    (hchars : ∀ c ∈ word.toList, isWordChar c = true) : words word.toList = [word] := by
  rw [words_eq_singleton hne fun c hc ↦ isBlank_of_isWordChar (hchars c hc), String.ofList_toList]

/-- The first word of a line that begins with one is the run of word characters. -/
theorem words_word {c : Char} {rest : List Char} (hc : isWordChar c = true)
    (hplain : ∀ d ∈ c :: rest, IsPlain d) :
    words (c :: rest) = String.ofList ((c :: rest).takeWhile isWordChar) ::
      words ((c :: rest).dropWhile isWordChar) := by
  have hne : (c :: rest).takeWhile isWordChar ≠ [] := by
    rw [List.takeWhile_cons_of_pos hc]
    exact List.cons_ne_nil _ _
  have hword : words ((c :: rest).takeWhile isWordChar) =
      [String.ofList ((c :: rest).takeWhile isWordChar)] :=
    words_eq_singleton hne fun d hd ↦ isBlank_of_isWordChar (List.mem_takeWhile_imp hd)
  have hsplit : (c :: rest).takeWhile isWordChar ++ (c :: rest).dropWhile isWordChar = c :: rest :=
    List.takeWhile_append_dropWhile
  rcases hdrop : (c :: rest).dropWhile isWordChar with - | ⟨d, after⟩
  · rw [hdrop, List.append_nil] at hsplit
    rw [words_nil, ← hword, hsplit]
  · have hd : isWordChar d = false :=
      head?_dropWhile_eq_false isWordChar (c :: rest) d (by simp [hdrop])
    have hmem : d ∈ c :: rest := by
      rw [← hsplit, hdrop]
      simp
    have hblank := (hplain d hmem).isBlank_of_not_isWordChar hd
    calc words (c :: rest)
        = words ((c :: rest).takeWhile isWordChar ++ d :: after) := by rw [← hdrop, hsplit]
      _ = words ((c :: rest).takeWhile isWordChar) ++ words after :=
        words_append_blank hblank _ _
      _ = _ := by rw [hword, words_blank hblank, List.singleton_append]

open Cursor in
/-- A line without control characters is scanned to its words. -/
theorem results_eq_wordResults (cursor : Cursor) (hplain : ∀ c ∈ cursor.rest, IsPlain c) :
    cursor.items.map Located.result =
      wordResults cursor.line cursor.atLineStart (words cursor.rest) := by
  induction cursor using Cursor.induction with
  | nil offset line first => simp [wordResults]
  | newline rest offset line first ih => exact absurd rfl (hplain '\n' List.mem_cons_self).1
  | comment rest offset line first ih => exact absurd rfl (hplain '#' List.mem_cons_self).2.1
  | blank c rest offset line first hc ih =>
    have hrest := ih fun d hd ↦ hplain d ((List.dropWhile_sublist _).subset hd)
    rw [rest_skip, words_dropWhile_blank] at hrest
    rw [items_blank hc, hrest]
    rfl
  | stray c rest offset line first hc ih =>
    have hclean := (hplain c List.mem_cons_self).2.2
    rw [hc] at hclean
    cases hclean
  | word c rest offset line first hc ih =>
    have hrest := ih fun d hd ↦ hplain d ((List.dropWhile_sublist _).subset hd)
    have hword : (takeWord ⟨c :: rest, offset, line, first⟩).1.result =
        wordResult line first (String.ofList ((c :: rest).takeWhile isWordChar)) :=
      Located.result_congr rfl rfl
    have hmore := hrest.trans (wordResults_false line (words ((c :: rest).dropWhile isWordChar)))
    rw [items_word hc, List.map_cons, hmore, hword, words_word hc hplain, wordResults]

/-- A control character outside a comment is a lexeme of its own. -/
theorem exists_stray_mem_items (cursor : Cursor) {c : Char} (hmem : c ∈ cursor.rest)
    (hstray : isStray c = true) (hhash : '#' ∉ cursor.rest) :
    ∃ item ∈ cursor.items, item.lexeme = .stray c := by
  have hdrop : ∀ {p : Char → Bool} {cs : List Char}, p c = false → c ∈ cs →
      c ∈ cs.dropWhile p := by
    intro p cs hp hcs
    rw [← List.takeWhile_append_dropWhile (p := p) (l := cs), List.mem_append] at hcs
    exact hcs.resolve_left (not_mem_takeWhile_of_neg hp)
  have hblank : isBlank c = false := by
    by_contra h
    rw [isStray_of_isBlank (by simpa using h)] at hstray
    cases hstray
  -- the character is neither passed over nor part of a word, so it is still ahead until it is taken
  induction cursor using Cursor.induction with
  | nil offset line first => cases hmem
  | newline rest offset line first ih =>
    rw [Cursor.items_newline]
    have hrest := (List.mem_cons.1 hmem).resolve_left (ne_newline_of_isStray hstray)
    exact ih hrest fun h ↦ hhash (List.mem_cons_of_mem _ h)
  | comment rest offset line first ih => exact absurd List.mem_cons_self hhash
  | blank d rest offset line first hd ih =>
    rw [Cursor.items_blank hd]
    exact ih (hdrop hblank hmem) fun h ↦ hhash ((List.dropWhile_sublist _).subset h)
  | stray d rest offset line first hd ih =>
    rw [Cursor.items_stray hd]
    rcases List.mem_cons.1 hmem with rfl | hrest
    · exact ⟨_, List.mem_cons_self, rfl⟩
    · obtain ⟨item, hitem, hlexeme⟩ := ih hrest fun h ↦ hhash (List.mem_cons_of_mem _ h)
      exact ⟨item, List.mem_cons_of_mem _ hitem, hlexeme⟩
  | word d rest offset line first hd ih =>
    rw [Cursor.items_word hd]
    obtain ⟨item, hitem, hlexeme⟩ := ih (hdrop (isWordChar_of_isStray hstray) hmem) fun h ↦
      hhash ((List.dropWhile_sublist _).subset h)
    exact ⟨item, List.mem_cons_of_mem _ hitem, hlexeme⟩

/-! ### All lines

The lines are put back together from the front. Each is followed by a newline, save the last, behind
which the text ends. -/

/-- The lexemes of consecutive lines, the first of which begins at the offset. -/
def lineItems (offset line : Nat) : List (List Char) → List Located
  | [] => []
  | text :: texts =>
    Cursor.items ⟨uncommented text, offset, line, true⟩ ++
      lineItems (offset + utf8Length text + 1) (line + 1) texts

/-- A line is scanned as if its comment were not there. -/
theorem items_uncommented {text : List Char} (htext : '\n' ∉ text) (offset line : Nat)
    (first : Bool) :
    Cursor.items ⟨text, offset, line, first⟩ =
      Cursor.items ⟨uncommented text, offset, line, first⟩ := by
  have hsplit : uncommented text ++ text.dropWhile (· ≠ '#') = text :=
    List.takeWhile_append_dropWhile
  rcases hdrop : text.dropWhile (· ≠ '#') with - | ⟨c, comment⟩
  · rw [hdrop, List.append_nil] at hsplit
    rw [hsplit]
  · have hc := head?_dropWhile_eq_false (· ≠ '#') text c (by rw [hdrop]; rfl)
    obtain rfl : c = '#' := by simpa using hc
    rw [hdrop] at hsplit
    have hcomment : '\n' ∉ comment := fun hmem ↦ htext <| by
      rw [← hsplit]
      simp [hmem]
    have happend := Cursor.items_append_comment hcomment ⟨uncommented text, offset, line, first⟩
      (not_mem_takeWhile_of_neg (by simp))
    rw [Cursor.append] at happend
    rw [← happend, hsplit]

/-- The lexemes of a text are those of its lines. -/
theorem items_eq_lineItems {texts : List (List Char)} (hne : texts ≠ [])
    (htexts : ∀ text ∈ texts, '\n' ∉ text) (offset line : Nat) :
    Cursor.items ⟨List.intercalate ['\n'] texts, offset, line, true⟩ =
      lineItems offset line texts := by
  induction texts generalizing offset line with
  | nil => exact absurd rfl hne
  | cons text texts ih =>
    have htext := htexts text List.mem_cons_self
    rcases texts with - | ⟨next, texts⟩
    · rw [List.intercalate_singleton, items_uncommented htext, lineItems, lineItems,
        List.append_nil]
    · have hrest := ih (List.cons_ne_nil _ _) (fun t ht ↦ htexts t (List.mem_cons_of_mem _ ht))
        (offset + utf8Length text + 1) (line + 1)
      have happend := Cursor.items_append_newline ⟨text, offset, line, true⟩
        (List.intercalate ['\n'] (next :: texts))
      have hlast : (⟨text, offset, line, true⟩ : Cursor).lastLine = line := by
        rw [Cursor.lastLine, List.count_eq_zero.2 htext, Nat.add_zero]
      rw [hlast, Cursor.endOffset, hrest, items_uncommented htext] at happend
      rw [List.intercalate_cons_cons, lineItems, ← happend, List.append_assoc]
      rfl

/-- What consecutive lines with these words are scanned to. -/
def lineResults (line : Nat) : List (List String) → List (Except Failure Token)
  | [] => []
  | words :: lines => wordResults line true words ++ lineResults (line + 1) lines

/-- The first word of a line, the others, and the lines behind. -/
theorem lineResults_cons_append (line : Nat) (word : String) (words : List String)
    (lines : List (List String)) (rest : List (Except Failure Token)) :
    lineResults line ((word :: words) :: lines) ++ rest =
      wordResult line true word ::
        (words.map (wordResult line false) ++ (lineResults (line + 1) lines ++ rest)) := by
  simp [lineResults, wordResults]

/-- Lines without control characters are scanned to their words, each under its own number. -/
theorem map_result_lineItems {texts : List (List Char)} (offset line : Nat)
    (hplain : ∀ text ∈ texts, ∀ c ∈ uncommented text, IsPlain c) :
    (lineItems offset line texts).map Located.result =
      lineResults line (texts.map fun text ↦ words (uncommented text)) := by
  induction texts generalizing offset line with
  | nil => rfl
  | cons text texts ih =>
    have htext := results_eq_wordResults ⟨uncommented text, offset, line, true⟩
      (hplain text List.mem_cons_self)
    rw [lineItems, List.map_append, htext, List.map_cons, lineResults,
      ih _ _ fun t ht ↦ hplain t (List.mem_cons_of_mem _ ht)]

/-- The lexemes of a source are those of its lines, from line 1 on. -/
theorem items_start (source : String) :
    (Cursor.start source).items = lineItems 0 1 (sourceLines source) := by
  have hitems := items_eq_lineItems (Text.splitAt_ne_nil '\n' source.toList)
    (fun _ ↦ not_mem_of_mem_splitAt) 0 1
  rwa [Text.intercalate_splitAt] at hitems

/-- **A source without control characters is scanned to the words of its lines**, and then the
end. -/
theorem scan_eq_lineResults {source : String} (hclean : Clean source) :
    scan source =
      lineResults 1 ((sourceLines source).map fun line ↦ words (uncommented line)) ++
        [.ok ⟨.endOfStream, (Cursor.start source).lastLine⟩] := by
  rw [scan_eq, items_start, map_result_lineItems]
  intro line hline c hc
  refine ⟨?_, ?_, hclean line hline c hc⟩
  · rintro rfl
    exact not_mem_of_mem_splitAt hline ((List.takeWhile_sublist _).subset hc)
  · rintro rfl
    exact not_mem_takeWhile_of_neg (by simp) hc

/-- A control character is a lexeme of the line that it is on, and so of all lines. -/
theorem exists_stray_mem_lineItems {texts : List (List Char)} {text : List Char} {c : Char}
    (htext : text ∈ texts) (hc : c ∈ uncommented text) (hstray : isStray c = true)
    (offset line : Nat) : ∃ item ∈ lineItems offset line texts, item.lexeme = .stray c := by
  induction texts generalizing offset line with
  | nil => exact absurd htext List.not_mem_nil
  | cons next texts ih =>
    rcases List.mem_cons.1 htext with rfl | hrest
    · obtain ⟨item, hitem, hlexeme⟩ := exists_stray_mem_items ⟨uncommented text, offset, line, true⟩
        hc hstray (not_mem_takeWhile_of_neg (by simp))
      exact ⟨item, List.mem_append_left _ hitem, hlexeme⟩
    · obtain ⟨item, hitem, hlexeme⟩ := ih hrest (offset + utf8Length next + 1) (line + 1)
      exact ⟨item, List.mem_append_right _ hitem, hlexeme⟩

/-- A control character outside a comment is scanned to a failure. -/
theorem exists_error_mem_scan {source : String} (hclean : ¬ Clean source) :
    ∃ failure, .error failure ∈ scan source := by
  simp only [Clean, not_forall, Bool.not_eq_false] at hclean
  obtain ⟨text, htext, c, hc, hstray⟩ := hclean
  obtain ⟨item, hitem, hlexeme⟩ := exists_stray_mem_lineItems htext hc hstray 0 1
  have hresult : item.result = .error (.lexical item.line (.invalidCharacter c)) := by
    rw [Located.result, hlexeme]
    rfl
  refine ⟨.lexical item.line (.invalidCharacter c), ?_⟩
  rw [scan_eq, items_start, List.mem_append, List.mem_map]
  exact .inl ⟨item, hitem, hresult⟩

end IppCode
