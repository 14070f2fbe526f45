import IppCode.Proofs.Scan.Results

/-!
# More text behind complete lines

Behind a text that ends in a newline, more text is scanned as if it stood alone, on later lines
(`scan_append`). Where a text stands only moves what it is scanned to: lexemes by an offset and by a
number of lines (`Cursor.items_moved`), and results by the number of lines (`Located.result_moved`).

That the text ends in a newline is needed. Otherwise its last word may go on in the text behind it,
or its last comment may cover the first line of that, and where nothing of the kind happens the
first word behind it is still not the first of its line.

What is left out is the end of the first text. The end is the last result of a scan and comes from
no lexeme, so the scan of both is that of the first without its last result, and then that of the
second with its lines moved, its end included.
-/

namespace IppCode

/-! ### Lexemes further down

The cursor is moved, with everything ahead of it unchanged. By induction along the text everything
that it delivers is moved by the same distance. -/

/-- The lexeme, so many bytes and lines further down. -/
def Located.moved (bytes lines : Nat) (item : Located) : Located :=
  ⟨item.lexeme, item.line + lines, item.start + bytes, item.stop + bytes⟩

namespace Cursor

/-- The cursor, so many bytes and lines further down. -/
def moved (bytes lines : Nat) (cursor : Cursor) : Cursor :=
  ⟨cursor.rest, cursor.offset + bytes, cursor.line + lines, cursor.atLineStart⟩

theorem moved_skip (p : Char → Bool) (bytes lines : Nat) (cursor : Cursor) :
    (cursor.moved bytes lines).skip p = (cursor.skip p).moved bytes lines := by
  simp only [skip, moved, Nat.add_right_comm]

/-- Where a text stands moves its lexemes, and changes nothing else about them. -/
theorem items_moved (bytes lines : Nat) (cursor : Cursor) :
    (cursor.moved bytes lines).items = cursor.items.map (Located.moved bytes lines) := by
  induction cursor using induction with
  | nil offset line first => rw [moved, items_nil, items_nil, List.map_nil]
  | newline rest offset line first ih =>
    rw [items_newline, ← ih, moved, items_newline, moved, Nat.add_right_comm,
      Nat.add_right_comm line]
  | comment rest offset line first ih =>
    rw [items_comment, ← ih, moved, items_comment, ← moved_skip, moved]
  | blank c rest offset line first hc ih =>
    rw [items_blank hc, ← ih, moved, items_blank hc, ← moved_skip, moved]
  | stray c rest offset line first hc ih =>
    have hnext : (takeStray ⟨c :: rest, offset, line, first⟩ c rest).2.moved bytes lines =
        ⟨rest, offset + bytes + c.utf8Size, line + lines, first⟩ := by
      rw [takeStray, moved, Nat.add_right_comm]
    rw [items_stray hc, List.map_cons, moved, items_stray hc, ← hnext, ih]
    simp only [Located.moved, takeStray, Nat.add_right_comm]
  | word c rest offset line first hc ih =>
    have htake : takeWord (moved bytes lines ⟨c :: rest, offset, line, first⟩) =
        ((takeWord ⟨c :: rest, offset, line, first⟩).1.moved bytes lines,
          (takeWord ⟨c :: rest, offset, line, first⟩).2.moved bytes lines) := by
      rw [takeWord, moved_skip]
      rfl
    rw [items_word hc, List.map_cons, ← ih]
    refine (items_word hc).trans ?_
    exact congrArg (fun taken : Located × Cursor ↦ taken.1 :: taken.2.items) htake

end Cursor

/-! ### Results further down

A result has a line and no offset, so moving it is a matter of lines. What it says of its word
stays. -/

/-- The failure, so many lines further down. -/
def Failure.moved (lines : Nat) : Failure → Failure
  | lexical line fault => lexical (line + lines) fault
  | header line fault => header (line.map (· + lines)) fault
  | badOpcode line found => badOpcode (line + lines) found
  | operands line opcode fault => operands (line + lines) opcode fault
  | transfer action target error => transfer action target error
  | outOfSequence refusal => outOfSequence refusal

/-- The token, so many lines further down. -/
def Token.moved (lines : Nat) (token : Token) : Token :=
  ⟨token.kind, token.line + lines⟩

/-- The result of a scan, so many lines further down. -/
def movedResult (lines : Nat) (result : Except Failure Token) : Except Failure Token :=
  (result.map (Token.moved lines)).mapError (Failure.moved lines)

@[simp]
theorem movedResult_ok (lines : Nat) (token : Token) :
    movedResult lines (.ok token) = .ok (token.moved lines) :=
  rfl

@[simp]
theorem movedResult_error (lines : Nat) (failure : Failure) :
    movedResult lines (.error failure) = .error (failure.moved lines) :=
  rfl

/-- A result mentions the line of its lexeme, and nothing else of its place. -/
theorem Located.result_moved (bytes lines : Nat) (item : Located) :
    (item.moved bytes lines).result = movedResult lines item.result := by
  rw [result, result, moved]
  rcases TokenKind.ofLexeme item.lexeme with fault | kind <;> rfl

/-! ### Sources

For the first text to be complete its last line has to be ended. Then the cursor behind it is like
one at the start of a source, only further down. -/

theorem Cursor.lastLine_start (source : String) :
    (Cursor.start source).lastLine = 1 + source.toList.count '\n' :=
  rfl

/-- A newline at the end adds a line and no lexeme. -/
theorem scan_newline {text source : String} (hsource : source.toList = text.toList ++ ['\n']) :
    scan source = (Cursor.start text).items.map Located.result ++
      [.ok ⟨.endOfStream, 1 + source.toList.count '\n'⟩] := by
  have hstart : Cursor.start source = (Cursor.start text).append ['\n'] := by
    rw [Cursor.start, hsource]
    rfl
  rw [scan_eq, hstart, Cursor.items_append_newline, Cursor.items_nil, List.append_nil, ← hstart,
    Cursor.lastLine_start]

/-- **Behind complete lines a text is scanned as if it stood alone**, on later lines. -/
theorem scan_append {source : String} (hsource : source.toList.getLast? = some '\n')
    (more : String) :
    scan (source ++ more) =
      (scan source).dropLast ++ (scan more).map (movedResult (source.toList.count '\n')) := by
  obtain ⟨text, htext⟩ := List.getLast?_eq_some_iff.1 hsource
  rw [← String.toList_ofList (l := text)] at htext
  set before := Cursor.start (String.ofList text) with hbefore
  have hlast : before.lastLine = source.toList.count '\n' := by
    rw [hbefore, Cursor.lastLine, Cursor.start, htext, List.count_append, List.count_singleton_self,
      Nat.add_comm]
  have happend : Cursor.start (source ++ more) = before.append ('\n' :: more.toList) := by
    rw [Cursor.start, String.toList_append, htext, List.append_assoc]
    rfl
  have hbehind : (⟨more.toList, before.endOffset + 1, before.lastLine + 1, true⟩ : Cursor) =
      (Cursor.start more).moved (before.endOffset + 1) (source.toList.count '\n') := by
    rw [Cursor.start, Cursor.moved, hlast, Nat.zero_add, Nat.add_comm 1]
  have hend : (Cursor.start (source ++ more)).lastLine =
      (Cursor.start more).lastLine + source.toList.count '\n' := by
    rw [Cursor.lastLine_start, Cursor.lastLine_start, String.toList_append, List.count_append]
    omega
  have hmoved : ∀ bytes lines, Located.result ∘ Located.moved bytes lines =
      movedResult lines ∘ Located.result := fun bytes lines ↦
    funext fun item ↦ Located.result_moved bytes lines item
  rw [scan_newline htext, List.dropLast_concat, scan_eq, scan_eq, happend,
    Cursor.items_append_newline, ← happend, hbehind, Cursor.items_moved, hend, List.map_append,
    List.map_append, List.map_map, List.map_map, hmoved, List.append_assoc]
  rfl

end IppCode
