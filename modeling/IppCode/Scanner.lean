import IppCode.Event

/-!
# The scanner

Delivers the tokens of a source one at a time. `Scanner.nextToken` goes on after a failure, behind
the lexeme that failed, and answers the end of the stream for ever once it has reached it.
`Scanner.next` is for going through the tokens: it stops after the end of the stream or after the
first failure, and then the scanner is finished for both.

The two can be called in any order on one scanner. All that they share is whether the scanner is
finished, and only `next` sets this before the end of the text is reached. A finished scanner stays
on the line where it is, so the end of the stream that it answers from then on has one fixed line.

`Scanner.read` is the one step behind both. What it leaves behind is smaller by `Scanner.remaining`,
which bounds every loop over a scanner.
-/

namespace IppCode

/-- A scanner: its place in the source, and whether the stream is over. It may be over at any place,
since `next` gives up at a failure. -/
structure Scanner where
  /-- The place in the source. -/
  cursor : Cursor
  /-- There is nothing more to come but the end. -/
  finished : Bool
  deriving DecidableEq

namespace Scanner

/-- A scanner at the beginning of a source. -/
def ofSource (source : String) : Scanner :=
  ⟨Cursor.start source, false⟩

/-- The end of the stream, on the line that has been reached. -/
def endToken (scanner : Scanner) : Token :=
  ⟨.endOfStream, scanner.cursor.line⟩

/-- The outcome of one step: a token or a failure, what there is to report about it, and the scanner
behind it. Failures are not reported one by one; the one that ends a run is its result. -/
structure Reading where
  /-- A token, or the failure that stands in its place. -/
  result : Except Failure Token
  /-- What there is to report: nothing about a failure, and nothing behind the end of the text. -/
  event? : Option Event
  /-- The scanner behind the lexeme, or at the end of the text. -/
  after : Scanner

/-- The reading of a lexeme, with the cursor behind it. The scanner goes on from there even if the
lexeme is no token. -/
def readLexeme (item : Located) (behind : Cursor) : Reading :=
  match TokenKind.ofLexeme item.lexeme with
  | .ok kind =>
    ⟨.ok ⟨kind, item.line⟩, some (.tokenFound item.line item.start item.stop kind),
      ⟨behind, false⟩⟩
  | .error fault => ⟨.error (.lexical item.line fault), none, ⟨behind, false⟩⟩

/-- One step of the scanner. The end of the text finishes it, and once finished it does not move. -/
def read (scanner : Scanner) : Reading :=
  if scanner.finished then ⟨.ok scanner.endToken, none, scanner⟩
  else match scanner.cursor.next with
    | (some item, behind) => readLexeme item behind
    | (none, behind) =>
      let after : Scanner := ⟨behind, true⟩
      ⟨.ok after.endToken, some (.endReached behind.line), after⟩

/-- The next token, or the failure that stands in its place. -/
def nextToken (scanner : Scanner) : Except Failure Token × Scanner :=
  (scanner.read.result, scanner.read.after)

/-- The next token or failure, if the scanner is not finished. A failure finishes it. -/
def next (scanner : Scanner) : Option (Except Failure Token) × Scanner :=
  if scanner.finished then (none, scanner)
  else match scanner.read with
    | ⟨.ok token, _, after⟩ => (some (.ok token), after)
    | ⟨.error failure, _, after⟩ => (some (.error failure), { after with finished := true })

/-! ### Progress -/

/-- How much is left: nothing for a finished scanner, else the text ahead and its end. The end
counts one, so that the step which reaches it leaves less as well. -/
def remaining (scanner : Scanner) : Nat :=
  if scanner.finished then 0 else scanner.cursor.rest.length + 1

/-- A lexeme is never the end of the stream, and does not finish the scanner. -/
theorem readLexeme_after (item : Located) (behind : Cursor) :
    (readLexeme item behind).after = ⟨behind, false⟩ := by
  rw [readLexeme]
  split <;> rfl

theorem isEnd_of_readLexeme {item : Located} {behind : Cursor} {token : Token}
    (h : (readLexeme item behind).result = .ok token) : token.isEnd = false := by
  rw [readLexeme] at h
  split at h
  · rename_i kind hkind
    cases h
    simpa [Token.isEnd] using TokenKind.ne_endOfStream_of_ofLexeme hkind
  · cases h

/-- A scanner that is not finished has less left after every step: a lexeme takes a part of the
text, and the end of the text finishes the scanner. -/
theorem remaining_read_lt {scanner : Scanner} (h : scanner.finished = false) :
    scanner.read.after.remaining < scanner.remaining := by
  rw [read, if_neg (by simp [h])]
  split
  · rename_i item behind heq
    have := Cursor.length_rest_next heq
    simpa [remaining, readLexeme_after, h] using this
  · simp [remaining, h]

/-- No step leaves more than there was. -/
theorem remaining_read_le (scanner : Scanner) :
    scanner.read.after.remaining ≤ scanner.remaining := by
  cases h : scanner.finished with
  | false => exact Nat.le_of_lt (remaining_read_lt h)
  | true => exact Nat.le_of_eq (by rw [read, if_pos h])

/-- A token other than the end takes part of the text with it. -/
theorem remaining_read_lt_of_ok {scanner : Scanner} {token : Token}
    (h : scanner.read.result = .ok token) (hend : token.isEnd = false) :
    scanner.read.after.remaining < scanner.remaining := by
  cases hf : scanner.finished with
  | false => exact remaining_read_lt hf
  | true =>
    rw [read, if_pos hf] at h
    cases h
    simp [Token.isEnd, endToken] at hend

theorem remaining_next_lt {scanner after : Scanner} {result : Except Failure Token}
    (h : scanner.next = (some result, after)) : after.remaining < scanner.remaining := by
  rw [next] at h
  split at h
  · cases h
  · rename_i hf
    have hlt : scanner.read.after.remaining < scanner.remaining :=
      remaining_read_lt (by simpa using hf)
    split at h
    · rename_i heq
      cases h
      rwa [heq] at hlt
    · cases h
      exact Nat.lt_of_le_of_lt (by simp [remaining]) hlt

/-- All that `next` delivers: the tokens up to the end of the stream or the first failure. -/
def toList (scanner : Scanner) : List (Except Failure Token) :=
  match _h : scanner.next with
  | (some result, after) => result :: after.toList
  | (none, _) => []
termination_by scanner.remaining
decreasing_by exact remaining_next_lt _h

end Scanner

end IppCode
