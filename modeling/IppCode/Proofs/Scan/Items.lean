import IppCode.Lexeme
import Mathlib.Data.List.TakeWhile

/-!
# The lexemes ahead of a cursor

`Cursor.items` lists everything that repeated use of `Cursor.next` delivers. The list is determined
by the first character ahead, one equation for each kind of character (`items_newline`,
`items_comment`, `items_blank`, `items_stray`, `items_word`). A statement about the lexemes ahead is
proved by an induction along these equations (`Cursor.induction`); that no step loses a line
(`lastLine_next`) is the first of them.

The definition of `items` recurses along `next`, which passes over any number of comments and blanks
before it delivers something. The equations do not: each takes one run off the text and says what
remains, so a proof by them has to look at one run at a time. They hold because a step begins by
passing over a run (`next_comment`, `next_blank`), whether or not it delivers anything behind it.

The five sorts of characters exclude one another and are all there are. In the definitions they are
tests made one after the other, and the next section says that the order is immaterial.
-/

namespace IppCode

/-! ### Runs of characters

Facts about runs in lists, which the scanner takes and passes over. A run ends in front of the first
character that is not of its kind, or at the end of the text. -/

section Runs

variable {α : Type} {p : α → Bool} {a b : List α} {x : α}

/-- A run stops at a separator, whatever stands behind it. -/
theorem takeWhile_append_cons_of_neg (hx : p x = false) :
    (a ++ x :: b).takeWhile p = a.takeWhile p := by
  induction a with
  | nil => simp [hx]
  | cons y ys ih => simp [List.takeWhile_cons, ih]

theorem dropWhile_append_cons_of_neg (hx : p x = false) :
    (a ++ x :: b).dropWhile p = a.dropWhile p ++ x :: b := by
  induction a with
  | nil => simp [hx]
  | cons y ys ih => by_cases hy : p y <;> simp [hy, ih]

/-- A run goes as far as its characters do. -/
theorem takeWhile_append_of_head? (ha : ∀ y ∈ a, p y = true) (hb : ∀ y ∈ b.head?, p y = false) :
    (a ++ b).takeWhile p = a := by
  rw [List.takeWhile_append_of_pos ha]
  rcases b with - | ⟨y, b⟩
  · exact List.append_nil a
  · rw [List.takeWhile_cons_of_neg (by simp [hb y rfl]), List.append_nil]

/-- A run holds none of the characters that end it. -/
theorem not_mem_takeWhile_of_neg (hx : p x = false) : x ∉ a.takeWhile p := by
  intro hmem
  have := List.mem_takeWhile_imp hmem
  simp [hx] at this

/-- Dropping a run loses none of the characters that end it. -/
theorem count_dropWhile_of_neg [DecidableEq α] (hx : p x = false) :
    (a.dropWhile p).count x = a.count x := by
  have hsplit : a.takeWhile p ++ a.dropWhile p = a := List.takeWhile_append_dropWhile
  have hnone : (a.takeWhile p).count x = 0 := List.count_eq_zero.2 (not_mem_takeWhile_of_neg hx)
  have hcount := congrArg (List.count x) hsplit
  rw [List.count_append, hnone, Nat.zero_add] at hcount
  exact hcount

/-- What is left of a text behind a run does not go on with it. -/
theorem head?_dropWhile_eq_false (p : α → Bool) (a : List α) :
    ∀ x ∈ (a.dropWhile p).head?, p x = false := by
  intro x hx
  have hhead := List.head?_dropWhile_not p a
  rw [Option.mem_def.1 hx] at hhead
  simpa using hhead

end Runs

/-! ### Which characters end which runs

Everything else about characters is derived from these. The first four are about single characters
and are evaluated; the others are about the tests. -/

theorem isBlank_newline : isBlank '\n' = false := by decide

theorem isBlank_hash : isBlank '#' = false := by decide

theorem isWordChar_newline : isWordChar '\n' = false := by decide

theorem isWordChar_hash : isWordChar '#' = false := by decide

theorem isWordChar_of_isStray {c : Char} (h : isStray c = true) : isWordChar c = false := by
  simp [isWordChar, h]

theorem ne_newline_of_isStray {c : Char} (h : isStray c = true) : c ≠ '\n' := by
  rintro rfl
  exact absurd h (by decide)

/-- Blanks are no control characters. -/
theorem isStray_of_isBlank {c : Char} (h : isBlank c = true) : isStray c = false := by
  simp only [isBlank, Bool.or_eq_true, decide_eq_true_eq] at h
  rcases h with ((rfl | rfl) | rfl) | rfl <;> decide

/-- What is no word character is a line end, a hash, a blank or a control character. -/
theorem isWordChar_eq_true_iff {c : Char} :
    isWordChar c = true ↔ c ≠ '\n' ∧ c ≠ '#' ∧ isBlank c = false ∧ isStray c = false := by
  simp [isWordChar, and_assoc]

theorem isBlank_of_isWordChar {c : Char} (h : isWordChar c = true) : isBlank c = false :=
  (isWordChar_eq_true_iff.1 h).2.2.1

theorem isWordChar_of_isBlank {c : Char} (h : isBlank c = true) : isWordChar c = false := by
  simp [isWordChar, h]

/-- Digits and letters are word characters, and so is what stands between them. -/
theorem isWordChar_of_toNat {c : Char} (hlow : 0x30 ≤ c.toNat) (hhigh : c.toNat ≤ 0x7A) :
    isWordChar c = true := by
  have hne : ∀ d : Char, d.toNat < 0x30 → c ≠ d := by
    rintro d hd rfl
    omega
  rw [isWordChar_eq_true_iff]
  refine ⟨hne _ (by decide), hne _ (by decide), ?_, ?_⟩
  · simp [isBlank, hne]
  · simp [isStray]
    omega

@[simp]
theorem utf8Length_nil : utf8Length [] = 0 :=
  rfl

@[simp]
theorem utf8Length_append (a b : List Char) :
    utf8Length (a ++ b) = utf8Length a + utf8Length b := by
  induction a with
  | nil => simp [utf8Length]
  | cons c cs ih => simp_all [utf8Length, Nat.add_assoc]

@[simp]
theorem utf8Length_cons (c : Char) (cs : List Char) :
    utf8Length (c :: cs) = c.utf8Size + utf8Length cs :=
  rfl

namespace Cursor

/-! ### One step

What `next` does at each sort of character, without its recursion: it delivers a lexeme, or goes on
from a place further on. -/

variable {rest : List Char} {offset line : Nat} {first : Bool}

theorem next_nil : next ⟨[], offset, line, first⟩ = (none, ⟨[], offset, line, first⟩) := by
  rw [next]

/-- A newline is counted, and what comes behind it is at the beginning of a line. -/
theorem next_newline :
    next ⟨'\n' :: rest, offset, line, first⟩ = next ⟨rest, offset + 1, line + 1, true⟩ := by
  rw [next]
  rfl

/-- A comment is passed over up to the end of its line. -/
theorem next_comment :
    next ⟨'#' :: rest, offset, line, first⟩ =
      next (skip (· ≠ '\n') ⟨'#' :: rest, offset, line, first⟩) := by
  rw [next]
  rfl

/-- A run of blanks is passed over. -/
theorem next_blank {c : Char} (hc : isBlank c = true) :
    next ⟨c :: rest, offset, line, first⟩ =
      next (skip isBlank ⟨c :: rest, offset, line, first⟩) := by
  have hnewline : c ≠ '\n' := by
    rintro rfl
    simp [isBlank_newline] at hc
  have hhash : c ≠ '#' := by
    rintro rfl
    simp [isBlank_hash] at hc
  rw [next]
  simp only [if_neg hnewline, if_neg hhash, if_pos hc]

/-- A control character is delivered by itself. -/
theorem next_stray {c : Char} (hc : isStray c = true) :
    next ⟨c :: rest, offset, line, first⟩ =
      (takeStray ⟨c :: rest, offset, line, first⟩ c rest).map some id := by
  have hhash : c ≠ '#' := by
    rintro rfl
    exact absurd hc (by decide)
  have hblank : isBlank c ≠ true := fun hblank ↦ by
    simp [isStray_of_isBlank hblank] at hc
  rw [next]
  simp only [if_neg (ne_newline_of_isStray hc), if_neg hhash, if_neg hblank, if_pos hc]

theorem next_word {c : Char} (hc : isWordChar c = true) :
    next ⟨c :: rest, offset, line, first⟩ =
      (takeWord ⟨c :: rest, offset, line, first⟩).map some id := by
  obtain ⟨hnewline, hhash, hblank, hstray⟩ := isWordChar_eq_true_iff.1 hc
  rw [next]
  simp [hnewline, hhash, hblank, hstray]

/-- The line of the end of the text. -/
def lastLine (cursor : Cursor) : Nat :=
  cursor.line + cursor.rest.count '\n'

/-- Skipping a run that no newline is part of loses no line. -/
theorem lastLine_skip {p : Char → Bool} (hp : p '\n' = false) (cursor : Cursor) :
    (cursor.skip p).lastLine = cursor.lastLine := by
  rw [lastLine, line_skip, rest_skip, count_dropWhile_of_neg hp, lastLine]

theorem lastLine_takeWord (cursor : Cursor) : cursor.takeWord.2.lastLine = cursor.lastLine :=
  lastLine_skip isWordChar_newline cursor

theorem lastLine_takeStray {c : Char} (hc : isStray c = true) :
    (takeStray ⟨c :: rest, offset, line, first⟩ c rest).2.lastLine =
      (⟨c :: rest, offset, line, first⟩ : Cursor).lastLine := by
  simp only [takeStray, lastLine, List.count_cons_of_ne (ne_newline_of_isStray hc)]

/-! ### Induction along the text

The five sorts of characters, and the end of the text, are the cases of an induction over what is
ahead of a cursor. The cases for runs go on behind the whole run. -/

/-- Induction along the text: over line ends, comments, runs of blanks, control characters and
words, each of which leaves a cursor further on. -/
@[elab_as_elim]
theorem induction {motive : Cursor → Prop}
    (nil : ∀ offset line first, motive ⟨[], offset, line, first⟩)
    (newline : ∀ rest offset line first, motive ⟨rest, offset + 1, line + 1, true⟩ →
      motive ⟨'\n' :: rest, offset, line, first⟩)
    (comment : ∀ rest offset line first,
      motive (skip (· ≠ '\n') ⟨'#' :: rest, offset, line, first⟩) →
        motive ⟨'#' :: rest, offset, line, first⟩)
    (blank : ∀ c rest offset line first, isBlank c = true →
      motive (skip isBlank ⟨c :: rest, offset, line, first⟩) →
        motive ⟨c :: rest, offset, line, first⟩)
    (stray : ∀ c rest offset line first, isStray c = true →
      motive (takeStray ⟨c :: rest, offset, line, first⟩ c rest).2 →
        motive ⟨c :: rest, offset, line, first⟩)
    (word : ∀ c rest offset line first, isWordChar c = true →
      motive (takeWord ⟨c :: rest, offset, line, first⟩).2 →
        motive ⟨c :: rest, offset, line, first⟩)
    (cursor : Cursor) : motive cursor := by
  -- by the length of the text ahead, since a run takes more than one character off
  have hlength : ∀ n, ∀ cursor : Cursor, cursor.rest.length = n → motive cursor := by
    intro n
    induction n using Nat.strongRecOn with
    | ind n ih =>
      rintro ⟨rest, offset, line, first⟩ hn
      rcases rest with - | ⟨c, rest⟩
      · exact nil offset line first
      have hshorter : ∀ cursor : Cursor, cursor.rest.length < (c :: rest).length →
          motive cursor := fun cursor hlt ↦ ih _ (hn ▸ hlt) cursor rfl
      by_cases hnewline : c = '\n'
      · subst hnewline
        exact newline rest offset line first (hshorter _ (by simp))
      by_cases hhash : c = '#'
      · subst hhash
        exact comment rest offset line first (hshorter _ (length_skip_lt rfl (by simp)))
      by_cases hblank : isBlank c = true
      · exact blank c rest offset line first hblank (hshorter _ (length_skip_lt rfl hblank))
      by_cases hstray : isStray c = true
      · exact stray c rest offset line first hstray (hshorter _ (by simp [takeStray]))
      have hword : isWordChar c = true :=
        isWordChar_eq_true_iff.2 ⟨hnewline, hhash, by simpa using hblank, by simpa using hstray⟩
      exact word c rest offset line first hword (hshorter _ (length_skip_lt rfl hword))
  exact hlength _ cursor rfl

/-- No step loses a line. -/
theorem lastLine_next (cursor : Cursor) : cursor.next.2.lastLine = cursor.lastLine := by
  induction cursor using induction with
  | nil offset line first => rw [next_nil]
  | newline rest offset line first ih =>
    rw [next_newline, ih]
    simp only [lastLine, List.count_cons_self]
    omega
  | comment rest offset line first ih =>
    rw [next_comment, ih, lastLine_skip (by simp)]
  | blank c rest offset line first hc ih =>
    rw [next_blank hc, ih, lastLine_skip isBlank_newline]
  | stray c rest offset line first hc ih =>
    rw [next_stray hc]
    exact lastLine_takeStray hc
  | word c rest offset line first hc ih =>
    rw [next_word hc]
    exact lastLine_takeWord _

theorem lastLine_of_next_eq {cursor behind : Cursor} {item : Option Located}
    (h : cursor.next = (item, behind)) : behind.lastLine = cursor.lastLine := by
  have hlast := cursor.lastLine_next
  rwa [h] at hlast

/-- Where no lexeme is left, the last line has been reached. -/
theorem line_of_next_eq_none {cursor behind : Cursor} (h : cursor.next = (none, behind)) :
    behind.line = cursor.lastLine := by
  rw [← lastLine_of_next_eq h, lastLine, rest_of_next_eq_none h, List.count_nil, Nat.add_zero]

/-! ### All lexemes

The equations of the list, one for each case of the induction. -/

/-- What repeated use of `next` delivers. -/
def items (cursor : Cursor) : List Located :=
  match _h : cursor.next with
  | (some item, behind) => item :: behind.items
  | (none, _) => []
termination_by cursor.rest.length
decreasing_by exact length_rest_next _h

/-- A lexeme that is delivered comes first. -/
theorem items_of_next_eq_some {cursor behind : Cursor} {item : Located}
    (h : cursor.next = (some item, behind)) : cursor.items = item :: behind.items := by
  rw [items]
  split
  · rename_i item' behind' h'
    obtain ⟨hitem, rfl⟩ := Prod.mk.inj (h.symm.trans h')
    obtain rfl := Option.some.inj hitem
    rfl
  · rename_i h'
    rw [h] at h'
    cases h'

theorem items_of_next_eq_none {cursor behind : Cursor} (h : cursor.next = (none, behind)) :
    cursor.items = [] := by
  rw [items]
  split
  · rename_i h'
    rw [h] at h'
    cases h'
  · rfl

/-- The lexemes ahead depend on the next step only. -/
theorem items_congr {cursor cursor' : Cursor} (h : cursor.next = cursor'.next) :
    cursor.items = cursor'.items := by
  rcases hnext : cursor'.next with ⟨- | item, behind⟩
  · rw [items_of_next_eq_none hnext, items_of_next_eq_none (h.trans hnext)]
  · rw [items_of_next_eq_some hnext, items_of_next_eq_some (h.trans hnext)]

@[simp]
theorem items_nil : items ⟨[], offset, line, first⟩ = [] :=
  items_of_next_eq_none next_nil

@[simp]
theorem items_newline :
    items ⟨'\n' :: rest, offset, line, first⟩ = items ⟨rest, offset + 1, line + 1, true⟩ :=
  items_congr next_newline

theorem items_comment :
    items ⟨'#' :: rest, offset, line, first⟩ =
      items (skip (· ≠ '\n') ⟨'#' :: rest, offset, line, first⟩) :=
  items_congr next_comment

theorem items_blank {c : Char} (hc : isBlank c = true) :
    items ⟨c :: rest, offset, line, first⟩ =
      items (skip isBlank ⟨c :: rest, offset, line, first⟩) :=
  items_congr (next_blank hc)

theorem items_stray {c : Char} (hc : isStray c = true) :
    items ⟨c :: rest, offset, line, first⟩ =
      ⟨.stray c, line, offset, offset + c.utf8Size⟩ ::
        items ⟨rest, offset + c.utf8Size, line, first⟩ :=
  items_of_next_eq_some (next_stray hc)

theorem items_word {c : Char} (hc : isWordChar c = true) :
    items ⟨c :: rest, offset, line, first⟩ =
      (takeWord ⟨c :: rest, offset, line, first⟩).1 ::
        items (takeWord ⟨c :: rest, offset, line, first⟩).2 :=
  items_of_next_eq_some (next_word hc)

end Cursor

end IppCode
