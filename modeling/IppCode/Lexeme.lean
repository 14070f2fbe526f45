/-!
# Lexemes

The source text as a sequence of words and stray characters. A `Cursor` stands in the text and
knows its byte offset, its line, and whether a word has been read on that line; `Cursor.next`
passes over blanks, line ends and comments to the next lexeme and stops behind it.

* A word is a maximal run of characters that are neither blank nor a line end nor `#` nor a
  control character.
* A comment runs from `#` up to the end of its line, whatever is in it.
* A control character outside a comment is a lexeme of its own. It is part of no word, and a
  word behind it can still be the first of its line.

Reading terminates because every step leaves less text (`Cursor.length_rest_next`).

The cursor counts bytes and not characters, since offsets in a source are given in bytes. Only a
line end changes its line, so all characters of a lexeme are on one line, and a comment never hides
a line end.
-/

namespace IppCode

/-! ### Characters -/

/-- Characters that separate words within a line. Other white space of Unicode is none, and stands
in words. -/
def isBlank (c : Char) : Bool :=
  c = ' ' || c = '\t' || c = '\r' || c = '\x0c'

/-- Control characters that may stand in comments only: those of ASCII that are neither blank nor a
line end. -/
def isStray (c : Char) : Bool :=
  c.toNat ≤ 0x08 || c.toNat = 0x0B || (0x0E ≤ c.toNat && c.toNat ≤ 0x1F) || c.toNat = 0x7F

/-- Characters that words are made of. All beyond ASCII are among them. -/
def isWordChar (c : Char) : Bool :=
  !(c = '\n' || c = '#' || isBlank c || isStray c)

/-- The number of bytes of the characters in UTF-8. -/
def utf8Length (cs : List Char) : Nat :=
  cs.foldr (fun c length ↦ c.utf8Size + length) 0

/-! ### Lexemes -/

/-- A word with whether it is the first of its line, or a control character on its own. -/
inductive Lexeme
  /-- A word. The first of its line may be a mnemonic. -/
  | word (text : String) (first : Bool)
  /-- A control character that stands in no comment. -/
  | stray (c : Char)
  deriving DecidableEq

/-- A lexeme in its place: its line, and the byte offsets where it starts and stops. -/
structure Located where
  /-- What was found. -/
  lexeme : Lexeme
  /-- The line that it is on, counted from 1. -/
  line : Nat
  /-- The offset of its first byte. -/
  start : Nat
  /-- The offset behind its last byte. -/
  stop : Nat
  deriving DecidableEq

/-! ### Cursors -/

/-- A place in the source: the text from there on, its byte offset, its line, and whether a
word has yet to be read on that line. -/
structure Cursor where
  /-- The text ahead. -/
  rest : List Char
  /-- How many bytes there are behind. -/
  offset : Nat
  /-- The line, counted from 1. -/
  line : Nat
  /-- No word has been read on the line. -/
  atLineStart : Bool
  deriving DecidableEq

namespace Cursor

/-- The beginning of a text. -/
def start (source : String) : Cursor :=
  ⟨source.toList, 0, 1, true⟩

/-- The cursor behind the longest run of characters with the given property. Its line is not
changed, so the property has to exclude line ends. -/
def skip (p : Char → Bool) (cursor : Cursor) : Cursor :=
  { cursor with
    rest := cursor.rest.dropWhile p
    offset := cursor.offset + utf8Length (cursor.rest.takeWhile p) }

@[simp]
theorem rest_skip (p : Char → Bool) (cursor : Cursor) :
    (cursor.skip p).rest = cursor.rest.dropWhile p :=
  rfl

@[simp]
theorem line_skip (p : Char → Bool) (cursor : Cursor) : (cursor.skip p).line = cursor.line :=
  rfl

theorem length_dropWhile_le (p : Char → Bool) (cs : List Char) :
    (cs.dropWhile p).length ≤ cs.length :=
  (List.dropWhile_sublist p).length_le

/-- A run that begins where the cursor stands is not empty, so skipping it leaves less. -/
theorem length_skip_lt {p : Char → Bool} {cursor : Cursor} {c : Char} {cs : List Char}
    (h : cursor.rest = c :: cs) (hc : p c = true) :
    (cursor.skip p).rest.length < cursor.rest.length := by
  rw [rest_skip, h, List.dropWhile_cons_of_pos hc, List.length_cons]
  exact Nat.lt_succ_of_le (length_dropWhile_le p cs)

/-- The cursor behind a line end that stands in front of `rest`. -/
def newline (cursor : Cursor) (rest : List Char) : Cursor :=
  ⟨rest, cursor.offset + 1, cursor.line + 1, true⟩

/-- The word that begins where the cursor stands, and the cursor behind it. -/
def takeWord (cursor : Cursor) : Located × Cursor :=
  let word := String.ofList (cursor.rest.takeWhile isWordChar)
  let after := cursor.skip isWordChar
  (⟨.word word cursor.atLineStart, cursor.line, cursor.offset, after.offset⟩,
    { after with atLineStart := false })

/-- The stray character `c` that stands in front of `rest`, and the cursor behind it. The next word
can still be the first of its line. -/
def takeStray (cursor : Cursor) (c : Char) (rest : List Char) : Located × Cursor :=
  let stop := cursor.offset + c.utf8Size
  (⟨.stray c, cursor.line, cursor.offset, stop⟩, { cursor with rest, offset := stop })

/-- The next lexeme, if there is one, and the cursor behind it or at the end of the text. At most
one character is looked at to tell what stands here. -/
def next (cursor : Cursor) : Option Located × Cursor :=
  match _h : cursor.rest with
  | [] => (none, cursor)
  | c :: rest =>
    if c = '\n' then (cursor.newline rest).next
    else if c = '#' then (cursor.skip (· ≠ '\n')).next
    else if isBlank c then (cursor.skip isBlank).next
    else if isStray c then (cursor.takeStray c rest).map some id
    else cursor.takeWord.map some id
termination_by cursor.rest.length
decreasing_by
  · simp [newline, _h]
  · exact length_skip_lt _h (by simp [‹c = '#'›])
  · exact length_skip_lt _h ‹_›

/-- A lexeme takes at least one character of the text with it. -/
theorem length_rest_next {cursor after : Cursor} {item : Located}
    (h : cursor.next = (some item, after)) : after.rest.length < cursor.rest.length := by
  fun_induction next cursor with
  | case1 => simp at h
  | case2 cursor rest heq ih =>
    have := ih h
    simp only [newline] at this
    simp only [heq, List.length_cons]
    omega
  | case3 cursor rest heq _ ih =>
    have := ih h
    have : (cursor.skip (· ≠ '\n')).rest.length < cursor.rest.length :=
      length_skip_lt heq (by simp)
    omega
  | case4 cursor c rest heq _ _ hb ih =>
    have := ih h
    have := length_skip_lt heq hb
    omega
  | case5 cursor c rest heq =>
    obtain ⟨-, rfl⟩ := Prod.mk.inj h
    simp [heq]
  | case6 cursor c rest heq hn hc hb hs =>
    obtain ⟨-, rfl⟩ := Prod.mk.inj h
    exact length_skip_lt heq (by simp [isWordChar, hn, hc, hb, hs])

/-- At the end of the text nothing is left. -/
theorem rest_of_next_eq_none {cursor after : Cursor} (h : cursor.next = (none, after)) :
    after.rest = [] := by
  fun_induction next cursor with
  | case1 cursor heq =>
    obtain ⟨-, rfl⟩ := Prod.mk.inj h
    exact heq
  | case2 _ _ _ ih => exact ih h
  | case3 _ _ _ _ ih => exact ih h
  | case4 _ _ _ _ _ _ _ ih => exact ih h
  | case5 => cases h
  | case6 => cases h

end Cursor

end IppCode
