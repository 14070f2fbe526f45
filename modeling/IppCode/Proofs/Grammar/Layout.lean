import IppCode.Parse
import IppCode.Proofs.Grammar.LineScan
import IppCode.Proofs.Validation.Agreement
import Mathlib.Data.List.SplitBy

/-!
# The layout of a source

Outside its comment a line holds words and control characters (`pieces`), and what separates them is
of no account: a source is scanned to the pieces of its lines, line by line
(`scan_eq_pieceResults`). So two sources that hold the same pieces on their lines, blank ones left
out, are parsed alike, but for the numbers of the lines (`parseSource_agree_of_contents`).

A control character separates words as a blank does, and it is no word: the word behind one can
still be the first of its line.

Pieces are cut off a text without a scanner, by splitting it wherever two characters are not both of
a word. A run of this splitting is a word, or else a single character, which is a separator or a
control character (`Piece.ofRun?`). That the scanner comes upon the same pieces is shown along the
text, one equation of `pieces` for each sort of character (`map_result_items_eq`).

A line is told by its rank among the lines that are not blank (`SameRank`), which is the same in
both sources. Ranks make a one-to-one relation of the lines, and so all that is left to do is to
compare the results of the two scans one by one.
-/

namespace IppCode

/-! ### Pieces of a line

A line is split wherever two characters are not both of a word, and the runs that are separators are
dropped. There is one equation for each sort of character, as for the lexemes of a cursor. -/

/-- What a line holds between separators. -/
inductive Piece
  /-- Characters of words, without a gap. -/
  | word (text : String)
  /-- A control character by itself. -/
  | control (c : Char)
  deriving DecidableEq

/-- The piece that a run of characters is, unless they are separators. -/
def Piece.ofRun? : List Char → Option Piece
  | [] => none
  | c :: run =>
    if isWordChar c then some (word (String.ofList (c :: run)))
    else if isStray c then some (control c)
    else none

/-- The pieces of a text: its longest runs of word characters, and its control characters. -/
def pieces (text : List Char) : List Piece :=
  (text.splitBy fun c d ↦ isWordChar c && isWordChar d).filterMap Piece.ofRun?

@[simp]
theorem pieces_nil : pieces [] = [] :=
  rfl

/-- A text can be cut wherever no two word characters meet. -/
theorem pieces_append {text more : List Char}
    (hcut : ∀ c ∈ text.getLast?, ∀ d ∈ more.head?, (isWordChar c && isWordChar d) = false) :
    pieces (text ++ more) = pieces text ++ pieces more := by
  rw [pieces, List.splitBy_append hcut, List.filterMap_append, ← pieces, ← pieces]

/-- What is no word character is a run of its own. -/
theorem pieces_cons_of_neg {c : Char} (hc : isWordChar c = false) (rest : List Char) :
    pieces (c :: rest) = pieces [c] ++ pieces rest := by
  rw [← pieces_append (by simp [hc]), List.singleton_append]

theorem pieces_blank {c : Char} (hc : isBlank c = true) (rest : List Char) :
    pieces (c :: rest) = pieces rest := by
  have hword := isWordChar_of_isBlank hc
  have hnone : pieces [c] = [] := by
    simp [pieces, List.splitBy, List.splitBy.loop, Piece.ofRun?, hword, isStray_of_isBlank hc]
  rw [pieces_cons_of_neg hword, hnone, List.nil_append]

theorem pieces_dropWhile_blank (text : List Char) :
    pieces (text.dropWhile isBlank) = pieces text := by
  induction text with
  | nil => rfl
  | cons c rest ih =>
    rcases hc : isBlank c with - | -
    · simp [hc]
    · rw [List.dropWhile_cons_of_pos hc, ih, pieces_blank hc]

/-- A control character is a piece by itself. -/
theorem pieces_stray {c : Char} (hc : isStray c = true) (rest : List Char) :
    pieces (c :: rest) = .control c :: pieces rest := by
  have hword := isWordChar_of_isStray hc
  have hcontrol : pieces [c] = [.control c] := by
    simp [pieces, List.splitBy, List.splitBy.loop, Piece.ofRun?, hword, hc]
  rw [pieces_cons_of_neg hword, hcontrol, List.singleton_append]

/-- A word is as long as it goes. -/
theorem pieces_word {c : Char} (hc : isWordChar c = true) (rest : List Char) :
    pieces (c :: rest) = .word (String.ofList ((c :: rest).takeWhile isWordChar)) ::
      pieces ((c :: rest).dropWhile isWordChar) := by
  have hrun : (c :: rest).takeWhile isWordChar = c :: rest.takeWhile isWordChar :=
    List.takeWhile_cons_of_pos hc
  have hchain : ((c :: rest).takeWhile isWordChar).IsChain
      fun d e ↦ (isWordChar d && isWordChar e) = true :=
    (List.pairwise_of_forall_mem_list fun d hd e he ↦ by
      rw [List.mem_takeWhile_imp hd, List.mem_takeWhile_imp he, Bool.and_self]).isChain
  have hword : pieces ((c :: rest).takeWhile isWordChar) =
      [.word (String.ofList ((c :: rest).takeWhile isWordChar))] := by
    rw [pieces, List.splitBy_of_isChain (hrun ▸ List.cons_ne_nil _ _) hchain]
    simp [hrun, Piece.ofRun?, hc]
  -- behind the run no word character stands
  have hcut : ∀ d ∈ ((c :: rest).takeWhile isWordChar).getLast?,
      ∀ e ∈ ((c :: rest).dropWhile isWordChar).head?, (isWordChar d && isWordChar e) = false := by
    intro d _ e he
    rw [head?_dropWhile_eq_false isWordChar _ e he, Bool.and_false]
  have happend := pieces_append hcut
  rwa [List.takeWhile_append_dropWhile, hword, List.singleton_append] at happend

/-! ### Results of a line

The pieces are gone through with the flag that the scanner has for words. Along the text they give
what the lexemes give, whatever the offsets are. -/

/-- What the pieces of a line are scanned to. A word is the first of its line whatever control
characters stand in front of it. -/
def pieceResults (line : Nat) (first : Bool) : List Piece → List (Except Failure Token)
  | [] => []
  | .word text :: pieces => wordResult line first text :: pieceResults line false pieces
  | .control c :: pieces =>
    .error (.lexical line (.invalidCharacter c)) :: pieceResults line first pieces

open Cursor in
/-- A line without a comment is scanned to its pieces. -/
theorem map_result_items_eq (cursor : Cursor) (hnewline : '\n' ∉ cursor.rest)
    (hhash : '#' ∉ cursor.rest) :
    cursor.items.map Located.result =
      pieceResults cursor.line cursor.atLineStart (pieces cursor.rest) := by
  induction cursor using Cursor.induction with
  | nil offset line first => simp [pieceResults]
  | newline rest offset line first ih => exact absurd List.mem_cons_self hnewline
  | comment rest offset line first ih => exact absurd List.mem_cons_self hhash
  | blank c rest offset line first hc ih =>
    have hrest := ih (fun h ↦ hnewline ((List.dropWhile_sublist _).subset h))
      fun h ↦ hhash ((List.dropWhile_sublist _).subset h)
    rw [rest_skip, pieces_dropWhile_blank] at hrest
    rw [items_blank hc, hrest]
    rfl
  | stray c rest offset line first hc ih =>
    have hrest := ih (fun h ↦ hnewline (List.mem_cons_of_mem _ h))
      fun h ↦ hhash (List.mem_cons_of_mem _ h)
    rw [items_stray hc, List.map_cons, pieces_stray hc, pieceResults]
    exact congrArg _ hrest
  | word c rest offset line first hc ih =>
    have hrest := ih (fun h ↦ hnewline ((List.dropWhile_sublist _).subset h))
      fun h ↦ hhash ((List.dropWhile_sublist _).subset h)
    rw [items_word hc, List.map_cons, pieces_word hc, pieceResults, hrest]
    exact congrArg (· :: _) (Located.result_congr rfl rfl)

/-! ### Lines that are not blank

A line is blank if it has no pieces. Such lines give no results, and so leaving them out changes
nothing but the numbers of the others. -/

/-- The lines of a source that are not blank: the pieces of each and its number. -/
def contentLines (source : String) : List (List Piece × Nat) :=
  (((sourceLines source).map fun line ↦ pieces (uncommented line)).zipIdx 1).filter (·.1 ≠ [])

/-- What they hold. -/
def contents (source : String) : List (List Piece) :=
  (contentLines source).map Prod.fst

/-- Lines are scanned to their pieces, each under its own number. -/
theorem map_result_lineItems_eq {texts : List (List Char)} (htexts : ∀ text ∈ texts, '\n' ∉ text)
    (offset line : Nat) :
    (lineItems offset line texts).map Located.result =
      ((texts.map fun text ↦ pieces (uncommented text)).zipIdx line).flatMap
        fun content ↦ pieceResults content.2 true content.1 := by
  induction texts generalizing offset line with
  | nil => rfl
  | cons text texts ih =>
    have htext := map_result_items_eq ⟨uncommented text, offset, line, true⟩
      (fun h ↦ htexts text List.mem_cons_self ((List.takeWhile_sublist _).subset h))
      (not_mem_takeWhile_of_neg (by simp))
    rw [lineItems, List.map_append, htext, ih fun t ht ↦ htexts t (List.mem_cons_of_mem _ ht)]
    rfl

/-- What yields nothing can be left out. -/
theorem flatMap_filter_of_eq_nil {α β : Type} {p : α → Bool} {f : α → List β}
    (h : ∀ x, p x = false → f x = []) (xs : List α) : (xs.filter p).flatMap f = xs.flatMap f := by
  induction xs with
  | nil => rfl
  | cons x xs ih => rcases hx : p x with - | - <;> simp [hx, ih, h]

/-- **A source is scanned to the pieces of its lines**, and then the end. -/
theorem scan_eq_pieceResults (source : String) :
    scan source = ((contentLines source).flatMap fun content ↦
      pieceResults content.2 true content.1) ++
        [.ok ⟨.endOfStream, (Cursor.start source).lastLine⟩] := by
  have hblank : ∀ content : List Piece × Nat, decide (content.1 ≠ []) = false →
      pieceResults content.2 true content.1 = [] := fun content h ↦ by
    rw [not_not.1 (of_decide_eq_false h), pieceResults]
  rw [scan_eq, items_start, contentLines, flatMap_filter_of_eq_nil hblank, sourceLines,
    map_result_lineItems_eq fun _ ↦ not_mem_of_mem_splitAt]

/-! ### Sources with the same contents

With the same contents the results of both scans go together one by one, line by line of the same
rank, and the rest is left to the agreement of runs. -/

/-- The number of the line that is not blank and has so many such lines in front of it. -/
def contentLine? (source : String) (rank : Nat) : Option Nat :=
  ((contentLines source).map Prod.snd)[rank]?

/-- As many lines that are not blank stand in front of the line in the one source as in front of
that in the other. -/
def SameRank (source other : String) (line line' : Nat) : Prop :=
  ∃ rank, contentLine? source rank = some line ∧ contentLine? other rank = some line'

/-- A line is counted once. -/
theorem contentLine?_inj {source : String} {rank rank' line : Nat}
    (h : contentLine? source rank = some line) (h' : contentLine? source rank' = some line) :
    rank = rank' := by
  -- leaving out lines keeps their numbers apart
  have hnodup : ((contentLines source).map Prod.snd).Nodup := by
    refine List.Nodup.sublist (List.filter_sublist.map Prod.snd) ?_
    rw [List.zipIdx_map_snd]
    exact List.nodup_range'
  exact (List.getElem?_inj (List.getElem?_eq_some_iff.1 h).1 hnodup).1 (h.trans h'.symm)

/-- Lines of the same rank determine one another. -/
theorem biUnique_sameRank (source other : String) : Relator.BiUnique (SameRank source other) := by
  constructor
  · rintro line line' last ⟨rank, hline, hlast⟩ ⟨rank', hline', hlast'⟩
    obtain rfl := contentLine?_inj hlast hlast'
    exact Option.some.inj (hline.symm.trans hline')
  · rintro line last last' ⟨rank, hline, hlast⟩ ⟨rank', hline', hlast'⟩
    obtain rfl := contentLine?_inj hline hline'
    exact Option.some.inj (hlast.symm.trans hlast')

/-- The same pieces on lines that are related are scanned to results that agree. -/
theorem forall₂_pieceResults {related : Nat → Nat → Prop} {line line' : Nat}
    (hline : related line line') (first : Bool) (pieces : List Piece) :
    List.Forall₂ (Agree related (Token.Agrees related)) (pieceResults line first pieces)
      (pieceResults line' first pieces) := by
  induction pieces generalizing first with
  | nil => exact .nil
  | cons piece pieces ih =>
    rcases piece with text | c
    · refine .cons ?_ (ih false)
      rw [wordResult, wordResult, Located.result, Located.result]
      rcases TokenKind.ofLexeme (.word text first) with fault | kind
      · exact .error (.lexical fault hline)
      · exact .ok ⟨rfl, fun _ ↦ hline⟩
    · exact .cons (.error (.lexical _ hline)) (ih first)

/-- Sources with the same contents hold them on lines of the same rank. -/
theorem forall₂_contentLines {source other : String} (h : contents source = contents other) :
    List.Forall₂ (fun content content' ↦ content.1 = content'.1 ∧
      SameRank source other content.2 content'.2) (contentLines source) (contentLines other) := by
  have hlength : (contentLines source).length = (contentLines other).length := by
    simpa [contents] using congrArg List.length h
  refine List.forall₂_iff_get.2 ⟨hlength, fun rank hrank hrank' ↦ ⟨?_, rank, ?_, ?_⟩⟩
  · have hcontent := congrArg (·[rank]?) h
    simpa [contents, hrank, hrank'] using hcontent
  · simp [contentLine?, hrank]
  · simp [contentLine?, hrank']

/-- **Layout does not matter.** Sources that hold the same pieces on their lines, blank ones left
out, are parsed to one document, or they fail alike, and then on lines of the same rank. Blanks,
comments and blank lines can be put in and taken out without anything else to be changed. -/
theorem parseSource_agree_of_contents {source other : String}
    (h : contents source = contents other) :
    Agree (SameRank source other) Eq (parseSource source).result (parseSource other).result := by
  refine agree_validate (biUnique_sameRank source other) ?_
  rw [scan_eq_pieceResults source, scan_eq_pieceResults other]
  refine List.rel_append (List.rel_flatMap (forall₂_contentLines h) ?_) ?_
  · rintro ⟨pieces, line⟩ ⟨_, line'⟩ ⟨rfl, hline⟩
    exact forall₂_pieceResults hline true pieces
  · exact .cons (.ok ⟨rfl, fun hend ↦ by cases hend⟩) .nil

/-- A missing operand, with comments, line ends, blank lines and blanks around what is written. -/
theorem parseSource_agree_of_contents_missing_operand :
    contents ".IPPcode23\nMOVE GF@x" =
      contents "# MOVE\n\x0c\r\n\t.IPPcode23#\x01\r\n #\nMOVE\tGF@x  \r\n\n" ∧
    Agree (SameRank ".IPPcode23\nMOVE GF@x"
        "# MOVE\n\x0c\r\n\t.IPPcode23#\x01\r\n #\nMOVE\tGF@x  \r\n\n") Eq
      (parseSource ".IPPcode23\nMOVE GF@x").result
      (parseSource "# MOVE\n\x0c\r\n\t.IPPcode23#\x01\r\n #\nMOVE\tGF@x  \r\n\n").result := by
  have hcontents : contents ".IPPcode23\nMOVE GF@x" =
      contents "# MOVE\n\x0c\r\n\t.IPPcode23#\x01\r\n #\nMOVE\tGF@x  \r\n\n" := by
    decide
  exact ⟨hcontents, parseSource_agree_of_contents hcontents⟩

end IppCode
