import IppCode.Scanner
import IppCode.Proofs.Scan.Lines

/-!
# All results of a scanner

`Scanner.results` lists what repeated calls of `Scanner.nextToken` deliver, failures included, up to
the end of the stream. It is a view of the lexemes ahead: one result for each, and then the end on
the last line (`results_eq`). So a statement about the results of a scan is one about
`Cursor.items`.

`scan` is the list for a whole source. It is never empty, and it ends with the end, which it holds
once (`isEnd_of_scan_eq_append`): what has something behind it in a scan comes from a lexeme.
Nothing in the list depends on offsets, since a result mentions none (`Located.result_congr`), and
lines are in it as they are counted, so they never go down (`pairwise_line_scan`).

The list goes on behind failures, as a scanner does that is asked again. A run of the validator does
not ask again, and pulls a beginning of the list only.
-/

namespace IppCode

/-- What a lexeme in its place is scanned to. -/
def Located.result (item : Located) : Except Failure Token :=
  match TokenKind.ofLexeme item.lexeme with
  | .ok kind => .ok ⟨kind, item.line⟩
  | .error fault => .error (.lexical item.line fault)

/-- The result depends on what the lexeme is taken for and on its line. -/
theorem Located.result_congr_kind {item other : Located}
    (hkind : TokenKind.ofLexeme item.lexeme = TokenKind.ofLexeme other.lexeme)
    (hline : item.line = other.line) : item.result = other.result := by
  rw [result, result, hkind, hline]

/-- Where in its line a lexeme stands has no bearing on its result. -/
theorem Located.result_congr {item other : Located} (hlexeme : item.lexeme = other.lexeme)
    (hline : item.line = other.line) : item.result = other.result :=
  result_congr_kind (congrArg _ hlexeme) hline

/-- A lexeme is scanned to a token exactly if it is taken for one, which then is on its line. -/
theorem Located.result_eq_ok_iff {item : Located} {token : Token} :
    item.result = .ok token ↔
      TokenKind.ofLexeme item.lexeme = .ok token.kind ∧ token.line = item.line := by
  obtain ⟨kind, line⟩ := token
  rw [result]
  rcases TokenKind.ofLexeme item.lexeme with fault | kind'
  · simp
  · simp [eq_comm]

/-- Only words are tokens. -/
theorem Located.exists_word_of_result_eq_ok {item : Located} {token : Token}
    (h : item.result = .ok token) : ∃ text first, item.lexeme = .word text first := by
  rcases hlexeme : item.lexeme with ⟨text, first⟩ | c
  · exact ⟨text, first, rfl⟩
  · have hkind := (Located.result_eq_ok_iff.1 h).1
    rw [hlexeme] at hkind
    cases hkind

/-- Otherwise it is scanned to the fault that it has, on its line. -/
theorem Located.result_eq_error_iff {item : Located} {failure : Failure} :
    item.result = .error failure ↔
      ∃ fault, TokenKind.ofLexeme item.lexeme = .error fault ∧
        failure = .lexical item.line fault := by
  rw [result]
  rcases TokenKind.ofLexeme item.lexeme with fault | kind
  · simp [eq_comm]
  · simp

/-- What fails on a lexeme is the scanner. -/
theorem Located.exists_lexical_of_result_eq_error {item : Located} {failure : Failure}
    (h : item.result = .error failure) : ∃ line fault, failure = .lexical line fault := by
  obtain ⟨fault, -, rfl⟩ := result_eq_error_iff.1 h
  exact ⟨item.line, fault, rfl⟩

/-- No lexeme is the end of the stream. -/
theorem Located.isEnd_of_result_eq_ok {item : Located} {token : Token}
    (h : item.result = .ok token) : token.isEnd = false := by
  have hne := TokenKind.ne_endOfStream_of_ofLexeme (Located.result_eq_ok_iff.1 h).1
  simpa [Token.isEnd] using hne

namespace Scanner

/-! ### One step

What a scanner reads is the result of the next lexeme, or the end where there is none. -/

theorem readLexeme_result (item : Located) (behind : Cursor) :
    (readLexeme item behind).result = item.result := by
  rw [readLexeme, Located.result]
  rcases TokenKind.ofLexeme item.lexeme with fault | kind <;> rfl

/-- A step takes the next lexeme, if there is one … -/
theorem read_of_next_eq_some {cursor behind : Cursor} {item : Located}
    (h : cursor.next = (some item, behind)) :
    read ⟨cursor, false⟩ = readLexeme item behind := by
  simp only [read, h, Bool.false_eq_true, if_false]

/-- … and else comes to the end, which is on the line that has been reached. -/
theorem read_of_next_eq_none {cursor behind : Cursor} (h : cursor.next = (none, behind)) :
    read ⟨cursor, false⟩ =
      ⟨.ok (endToken ⟨behind, true⟩), some (.endReached behind.line), ⟨behind, true⟩⟩ := by
  simp only [read, h, Bool.false_eq_true, if_false]

/-- A scanner is finished by the end of the stream and by nothing else. -/
theorem finished_read_after {scanner : Scanner} (h : scanner.finished = false) {token : Token}
    (hread : scanner.read.result = .ok token) :
    scanner.read.after.finished = token.isEnd := by
  obtain ⟨cursor, finished⟩ := scanner
  obtain rfl : finished = false := h
  rcases hnext : cursor.next with ⟨- | item, behind⟩
  · rw [read_of_next_eq_none hnext] at hread ⊢
    cases hread
    rfl
  · rw [read_of_next_eq_some hnext] at hread ⊢
    rw [readLexeme_after, isEnd_of_readLexeme hread]

/-! ### All results

The list of results is defined by repeated reading, and all that is said of it comes from the list
of lexemes. -/

/-- What repeated calls of `nextToken` deliver up to the end of the stream. -/
def results (scanner : Scanner) : List (Except Failure Token) :=
  if _h : scanner.finished = true then [] else scanner.read.result :: scanner.read.after.results
termination_by scanner.remaining
decreasing_by exact remaining_read_lt (by simpa using _h)

theorem results_of_finished {scanner : Scanner} (h : scanner.finished = true) :
    scanner.results = [] := by
  rw [results, dif_pos h]

theorem results_of_not_finished {scanner : Scanner} (h : scanner.finished = false) :
    scanner.results = scanner.read.result :: scanner.read.after.results := by
  rw [results, dif_neg (by simp [h])]

/-- One result for each lexeme ahead, and then the end on the last line. -/
theorem results_eq (cursor : Cursor) :
    results ⟨cursor, false⟩ =
      cursor.items.map Located.result ++ [.ok ⟨.endOfStream, cursor.lastLine⟩] := by
  induction cursor using Cursor.items.induct with
  | case1 cursor item behind hnext ih =>
    rw [results_of_not_finished rfl, read_of_next_eq_some hnext, readLexeme_result,
      readLexeme_after, ih, Cursor.items_of_next_eq_some hnext, Cursor.lastLine_of_next_eq hnext]
    rfl
  | case2 cursor behind hnext =>
    have hline := Cursor.line_of_next_eq_none hnext
    rw [results_of_not_finished rfl, read_of_next_eq_none hnext,
      Cursor.items_of_next_eq_none hnext, results_of_finished rfl, ← hline]
    rfl

end Scanner

/-- All results of scanning a source. -/
def scan (source : String) : List (Except Failure Token) :=
  (Scanner.ofSource source).results

/-- A scan has one result for each lexeme of the source, and then the end on the last line. -/
theorem scan_eq (source : String) :
    scan source = (Cursor.start source).items.map Located.result ++
      [.ok ⟨.endOfStream, (Cursor.start source).lastLine⟩] :=
  Scanner.results_eq (Cursor.start source)

/-- The end comes last. -/
theorem scan_eq_dropLast (source : String) :
    ∃ line, scan source = (scan source).dropLast ++ [.ok ⟨.endOfStream, line⟩] := by
  refine ⟨(Cursor.start source).lastLine, ?_⟩
  rw [scan_eq, List.dropLast_concat]

/-- What is scanned before anything else is scanned from lexemes. -/
theorem map_result_items_of_scan {source : String} {before later : List (Except Failure Token)}
    (hscan : scan source = before ++ later) (hlater : later ≠ []) :
    ∃ more, (Cursor.start source).items.map Located.result = before ++ more := by
  obtain ⟨more, last, rfl⟩ : ∃ more last, later = more ++ [last] :=
    ⟨_, _, (List.dropLast_concat_getLast hlater).symm⟩
  rw [scan_eq, ← List.append_assoc] at hscan
  exact ⟨more, (List.append_inj' hscan rfl).1⟩

/-- Only the last result of a scan is the end. -/
theorem isEnd_of_scan_eq_append {source : String} {before later : List (Except Failure Token)}
    (hscan : scan source = before ++ later) (hlater : later ≠ []) {token : Token}
    (htoken : .ok token ∈ before) : token.isEnd = false := by
  obtain ⟨more, hitems⟩ := map_result_items_of_scan hscan hlater
  have hmem : .ok token ∈ (Cursor.start source).items.map Located.result :=
    hitems ▸ List.mem_append_left more htoken
  obtain ⟨item, -, hresult⟩ := List.mem_map.1 hmem
  exact Located.isEnd_of_result_eq_ok hresult

/-- A scan fails with the failures of the scanner only. -/
theorem exists_lexical_of_error_mem_scan {source : String} {failure : Failure}
    (h : .error failure ∈ scan source) : ∃ line fault, failure = .lexical line fault := by
  rw [scan_eq, List.mem_append, List.mem_map] at h
  rcases h with ⟨item, -, hresult⟩ | h
  · exact Located.exists_lexical_of_result_eq_error hresult
  · simp at h

/-- Lines of tokens never go down. -/
theorem pairwise_line_scan (source : String) :
    (scan source).Pairwise fun result later ↦
      ∀ token token', result = .ok token → later = .ok token' → token.line ≤ token'.line := by
  rw [scan_eq, List.pairwise_append, List.pairwise_map]
  refine ⟨?_, List.pairwise_singleton _ _, ?_⟩
  · refine (Cursor.start source).pairwise_line_items.imp ?_
    intro item later hle token token' htoken htoken'
    rwa [(Located.result_eq_ok_iff.1 htoken).2, (Located.result_eq_ok_iff.1 htoken').2]
  · intro result hresult last hlast token token' htoken htoken'
    obtain ⟨item, hitem, rfl⟩ := List.mem_map.1 hresult
    obtain rfl := List.mem_singleton.1 hlast
    cases htoken'
    rw [(Located.result_eq_ok_iff.1 htoken).2]
    exact Cursor.line_le_lastLine_of_mem_items hitem

theorem pairwise_line_of_prefix_scan {source : String} {tokens : List Token}
    (h : tokens.map .ok <+: scan source) :
    tokens.Pairwise fun token later ↦ token.line ≤ later.line := by
  have hpairwise := (pairwise_line_scan source).sublist h.sublist
  rw [List.pairwise_map] at hpairwise
  exact hpairwise.imp fun hle ↦ hle _ _ rfl rfl

end IppCode
