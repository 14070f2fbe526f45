import IppCode.Proofs.Scan.Items
import Mathlib.Data.List.DropRight

/-!
# The items of a source

What there is to be scanned in a source, read off the whole text at once: the control characters
outside comments, and the longest runs of word characters outside comments.

An `Item` is a piece of the text together with all the text in front of it, and not a pair of
offsets. So its line, and whether a comment has begun on that line, are read off the item and need
no second look at the source, and two items that begin at one place have the same text in front of
them.

The scanner goes through the text once and carries a line and a flag with it. What these say about
the text in front of the cursor is `Cursor.Behind`; no step of the scanner loses it. Two of its
fields are about the place itself, and without them the invariant would be lost at once:

* `uncut`: the cursor does not stand inside a run of word characters. A run that is taken from here
  would otherwise be the end of a longer one, and no item.
* `comment`: within a comment the cursor stands at its end. What follows is a newline then, so
  nothing that is taken from here is in a comment.

So the lexemes ahead of a cursor are the items that begin there or later, in order
(`Cursor.Behind.exists_items`). There is one such list only (`ItemsBehind.unique`), so the statement
pins the lexemes down, although it says nothing of how they are found.
-/

namespace IppCode

/-! ### Characters

The classes of characters as they are stated in words, against the tests that the scanner makes. -/

/-- The control characters that may stand in comments only: U+0000 to U+0008, U+000B, U+000E to
U+001F and U+007F. -/
def ControlChar (c : Char) : Prop :=
  c.toNat ≤ 0x08 ∨ c.toNat = 0x0B ∨ (0x0E ≤ c.toNat ∧ c.toNat ≤ 0x1F) ∨ c.toNat = 0x7F

/-- The characters of words: all but these, space, tab, carriage return, form feed, newline and
`#`. -/
def WordChar (c : Char) : Prop :=
  ¬ ControlChar c ∧ c ∉ [' ', '\t', '\r', '\x0c', '\n', '#']

/-- The test on code points that the scanner makes is for the control characters. -/
theorem isStray_eq_true_iff {c : Char} : isStray c = true ↔ ControlChar c := by
  simp [isStray, ControlChar, or_assoc]

/-- A word character is what none of the other tests of the scanner takes. The classes are disjoint,
so the order in which the scanner makes these tests does not matter. -/
theorem wordChar_iff {c : Char} : WordChar c ↔ isWordChar c = true := by
  have hblank : isBlank c = false ↔ c ∉ [' ', '\t', '\r', '\x0c'] := by
    simp [isBlank, and_assoc]
  have hmem : c ∉ [' ', '\t', '\r', '\x0c', '\n', '#'] ↔
      c ∉ [' ', '\t', '\r', '\x0c'] ∧ c ≠ '\n' ∧ c ≠ '#' := by
    simp [and_assoc]
  rw [isWordChar_eq_true_iff, WordChar, hmem, hblank, ← isStray_eq_true_iff, Bool.not_eq_true]
  constructor
  · rintro ⟨hstray, hspace, hnewline, hhash⟩
    exact ⟨hnewline, hhash, hspace, hstray⟩
  · rintro ⟨hnewline, hhash, hspace, hstray⟩
    exact ⟨hstray, hspace, hnewline, hhash⟩

theorem not_wordChar_iff {c : Char} : ¬ WordChar c ↔ isWordChar c = false := by
  rw [wordChar_iff, Bool.not_eq_true]

/-! ### Comments

Whether a place is in a comment is read off the text in front of it. The scanner has no such look
back, and needs none. -/

/-- The text ends within a comment: a `#` stands on its last line. -/
def InComment (text : List Char) : Prop :=
  '#' ∈ text.rtakeWhile (· ≠ '\n')

/-- A comment is begun by `#` and ended by a newline, and goes on else. This is all that is needed
of comments in a scan from left to right. -/
theorem inComment_concat {text : List Char} {c : Char} :
    InComment (text ++ [c]) ↔ c ≠ '\n' ∧ (c = '#' ∨ InComment text) := by
  rw [InComment, List.rtakeWhile_concat]
  by_cases hc : c = '\n'
  · simp [hc]
  · simp [hc, InComment, or_comm, eq_comm]

/-- A comment goes on up to the next newline. -/
theorem inComment_of_hash {comment : List Char} (hcomment : '\n' ∉ comment) (text : List Char) :
    InComment (text ++ '#' :: comment) := by
  induction comment using List.reverseRecOn with
  | nil => exact inComment_concat.2 ⟨by decide, .inl rfl⟩
  | append_singleton comment c ih =>
    rw [List.mem_append, List.mem_singleton, not_or] at hcomment
    rw [← List.cons_append, ← List.append_assoc]
    exact inComment_concat.2 ⟨fun h ↦ hcomment.2 h.symm, .inr (ih hcomment.1)⟩

/-- Nothing but a `#` begins a comment. -/
theorem InComment.of_append {text more : List Char} (h : InComment (text ++ more))
    (hmore : '#' ∉ more) : InComment text := by
  induction more using List.reverseRecOn with
  | nil => rwa [List.append_nil] at h
  | append_singleton more c ih =>
    rw [List.mem_append, List.mem_singleton, not_or] at hmore
    rw [← List.append_assoc] at h
    exact ih ((inComment_concat.1 h).2.resolve_left fun hc ↦ hmore.2 hc.symm) hmore.1

/-! ### Items

What items are, and where they can begin. None of this mentions a cursor. -/

/-- A piece of a text, together with all that stands in front of it. The rest of the text is left
out: it is determined by the source, and an item of one source may be one of another that begins
alike. -/
@[ext]
structure Item where
  /-- All the text in front of the piece. -/
  before : List Char
  /-- The piece itself. -/
  text : List Char
  deriving DecidableEq

namespace Item

/-- Where the piece begins. -/
def start (item : Item) : Nat :=
  item.before.length

/-- The line on which the piece begins. Lines count from 1. -/
def line (item : Item) : Nat :=
  1 + item.before.count '\n'

/-- The piece is the control character, outside comments. -/
structure IsControl (source : List Char) (item : Item) (c : Char) : Prop where
  /-- The character stands alone, whatever is beside it. -/
  text_eq : item.text = [c]
  control : ControlChar c
  /-- A comment may hold any character. -/
  outside : ¬ InComment item.before
  /-- The piece stands in the source, behind the text in front of it. -/
  placed : ∃ after, source = item.before ++ item.text ++ after

/-- The piece is a longest run of word characters, outside comments. -/
structure IsWord (source : List Char) (item : Item) : Prop where
  /-- There is something there, … -/
  nonempty : item.text ≠ []
  /-- … all of it characters of words, … -/
  chars : ∀ c ∈ item.text, WordChar c
  /-- … and no comment has begun on the line. -/
  outside : ¬ InComment item.before
  /-- No word character stands in front of it … -/
  left : ∀ c ∈ item.before.getLast?, ¬ WordChar c
  /-- … and none behind it. -/
  right : ∃ after, source = item.before ++ item.text ++ after ∧ ∀ c ∈ after.head?, ¬ WordChar c

/-- The piece is an item of the source: a control character or a word. -/
def IsItem (source : List Char) (item : Item) : Prop :=
  (∃ c, item.IsControl source c) ∨ item.IsWord source

/-- No word stands in front of the item on its line. -/
def IsFirst (source : List Char) (item : Item) : Prop :=
  ∀ word : Item, word.IsWord source → word.start < item.start → word.line ≠ item.line

variable {source before taken rest : List Char} {item : Item}

theorem IsItem.outside (h : item.IsItem source) : ¬ InComment item.before :=
  h.elim (fun ⟨_, h⟩ ↦ h.outside) fun h ↦ h.outside

/-- An item begins with a control character or a word character. -/
theorem IsItem.head (h : item.IsItem source) {c : Char} (hc : item.text.head? = some c) :
    ControlChar c ∨ WordChar c := by
  rcases h with ⟨d, h⟩ | h
  · rw [h.text_eq] at hc
    obtain rfl := Option.some.inj hc
    exact .inl h.control
  · exact .inr (h.chars c (List.mem_of_head? hc))

/-- No item begins with a newline, a `#` or a blank. -/
theorem IsItem.head_ne (h : item.IsItem source) {c : Char} (hc : item.text.head? = some c) :
    c ≠ '\n' ∧ c ≠ '#' ∧ isBlank c = false := by
  rcases h.head hc with hcontrol | hword
  · rw [← isStray_eq_true_iff] at hcontrol
    refine ⟨ne_newline_of_isStray hcontrol, ?_, ?_⟩
    · rintro rfl
      exact absurd hcontrol (by decide)
    · rw [← Bool.not_eq_true]
      intro hblank
      simp [isStray_of_isBlank hblank] at hcontrol
  · obtain ⟨hnewline, hhash, hblank, -⟩ := isWordChar_eq_true_iff.1 (wordChar_iff.1 hword)
    exact ⟨hnewline, hhash, hblank⟩

/-- An item has a first character, which stands in the source behind the text in front of it. -/
theorem IsItem.placed (h : item.IsItem source) :
    ∃ c after, item.text.head? = some c ∧ source = item.before ++ c :: after := by
  have hplaced : item.text ≠ [] ∧ ∃ after, source = item.before ++ item.text ++ after := by
    rcases h with ⟨c, h⟩ | h
    · exact ⟨by simp [h.text_eq], h.placed⟩
    · exact ⟨h.nonempty, h.right.imp fun _ ↦ And.left⟩
  obtain ⟨hne, after, hsource⟩ := hplaced
  obtain ⟨c, cs, htext⟩ := List.exists_cons_of_ne_nil hne
  exact ⟨c, cs ++ after, by rw [htext, List.head?_cons], by rw [hsource, htext, List.append_assoc,
    List.cons_append]⟩

/-- An item that begins behind a place begins within the text taken there, or behind that. -/
theorem IsItem.begins (h : item.IsItem source) (hsource : source = before ++ (taken ++ rest))
    (hstart : before.length ≤ item.start) :
    (before ++ taken).length ≤ item.start ∨
      ∃ skipped c more, taken = skipped ++ c :: more ∧ item.before = before ++ skipped ∧
        item.text.head? = some c := by
  obtain ⟨c, after, hc, hchar⟩ := h.placed
  rw [start] at hstart ⊢
  obtain ⟨skipped, hbefore⟩ : before <+: item.before :=
    List.prefix_of_prefix_length_le ⟨_, hsource.symm⟩ ⟨_, hchar.symm⟩ hstart
  rw [← hbefore, List.append_assoc, hsource, List.append_cancel_left_eq] at hchar
  rw [← hbefore, List.length_append, List.length_append]
  by_cases hlength : taken.length ≤ skipped.length
  · exact .inl (Nat.add_le_add_left hlength _)
  · obtain ⟨more, hmore⟩ : skipped <+: taken :=
      List.prefix_of_prefix_length_le ⟨_, hchar.symm⟩ ⟨rest, rfl⟩ (by omega)
    rcases more with - | ⟨d, more⟩
    · simp [← hmore] at hlength
    rw [← hmore, List.append_assoc, List.append_cancel_left_eq, List.cons_append] at hchar
    obtain rfl := (List.cons.inj hchar).1
    exact .inr ⟨skipped, d, more, hmore.symm, rfl, hc⟩

/-- Of two words that begin at one place each is the other. -/
theorem IsWord.text_eq (h : item.IsWord source) (hsource : source = item.before ++ (taken ++ rest))
    (htaken : ∀ c ∈ taken, isWordChar c = true) (hrest : ∀ c ∈ rest.head?, isWordChar c = false) :
    item.text = taken := by
  obtain ⟨after, heq, hafter⟩ := h.right
  rw [hsource, List.append_assoc, List.append_cancel_left_eq] at heq
  have hword := takeWhile_append_of_head? (fun c hc ↦ wordChar_iff.1 (h.chars c hc))
    (fun c hc ↦ not_wordChar_iff.1 (hafter c hc))
  rw [← heq, takeWhile_append_of_head? htaken hrest] at hword
  exact hword.symm

end Item

/-- The items of the source that begin behind a place, in order. -/
structure ItemsBehind (source before : List Char) (items : List Item) : Prop where
  /-- They are listed by where they begin, each of them once. -/
  sorted : items.Pairwise fun item later ↦ item.start < later.start
  /-- All items from the place on are there, and nothing else. -/
  mem_iff : ∀ item, item ∈ items ↔ item.IsItem source ∧ before.length ≤ item.start

namespace ItemsBehind

variable {source before taken : List Char} {items items' : List Item} {item : Item}

/-- There is only one such list: two sorted lists with the same members are equal. -/
theorem unique (h : ItemsBehind source before items) (h' : ItemsBehind source before items') :
    items = items' := by
  have hasymm : ∀ item later : Item, item ∈ items → later ∈ items' → item.start < later.start →
      later.start < item.start → item = later := fun _ _ _ _ hlt hgt ↦ absurd hgt hlt.asymm
  refine List.Perm.eq_of_pairwise hasymm h.sorted h'.sorted ?_
  refine (List.perm_ext_iff_of_nodup ?_ ?_).2 fun item ↦ ?_
  · exact h.sorted.imp fun hlt heq ↦ Nat.ne_of_lt hlt (congrArg Item.start heq)
  · exact h'.sorted.imp fun hlt heq ↦ Nat.ne_of_lt hlt (congrArg Item.start heq)
  · rw [h.mem_iff, h'.mem_iff]

/-- A piece in which no item begins can be passed over. -/
theorem skip (h : ItemsBehind source (before ++ taken) items)
    (hnone : ∀ item : Item, item.IsItem source → before.length ≤ item.start →
      (before ++ taken).length ≤ item.start) : ItemsBehind source before items := by
  refine ⟨h.sorted, fun item ↦ (h.mem_iff item).trans ⟨?_, ?_⟩⟩
  · rintro ⟨hitem, hstart⟩
    rw [List.length_append] at hstart
    exact ⟨hitem, by omega⟩
  · exact fun ⟨hitem, hstart⟩ ↦ ⟨hitem, hnone item hitem hstart⟩

/-- The item in which no other begins comes first. That the items stay sorted needs the condition
for every item that begins behind the place, and not only for those in the list so far. -/
theorem cons (item : Item) (h : ItemsBehind source (item.before ++ item.text) items)
    (hitem : item.IsItem source) (hne : item.text ≠ [])
    (honly : ∀ other : Item, other.IsItem source → item.before.length ≤ other.start →
      other = item ∨ (item.before ++ item.text).length ≤ other.start) :
    ItemsBehind source item.before (item :: items) := by
  have hpos := List.length_pos_of_ne_nil hne
  refine ⟨List.pairwise_cons.2 ⟨fun later hlater ↦ ?_, h.sorted⟩, fun other ↦ ?_⟩
  · have hstart := ((h.mem_iff later).1 hlater).2
    rw [List.length_append] at hstart
    rw [Item.start]
    omega
  · rw [List.mem_cons, h.mem_iff]
    constructor
    · rintro (rfl | ⟨hother, hstart⟩)
      · exact ⟨hitem, Nat.le_refl _⟩
      · rw [List.length_append] at hstart
        exact ⟨hother, by omega⟩
    · rintro ⟨hother, hstart⟩
      exact (honly other hother hstart).imp_right fun hlater ↦ ⟨hother, hlater⟩

end ItemsBehind

/-! ### The cursor among the items

What stands where the cursor is: between it and the place it moves to, no item begins, or one item
and no other. -/

/-- The lexeme is the item, on its line. For a word this includes the flag that decides whether it
may be an opcode, and the flag is stated by the source: no word stands before it on its line. -/
def Item.Matches (source : List Char) (item : Item) (located : Located) : Prop :=
  located.line = item.line ∧
    ((∃ c, item.IsControl source c ∧ located.lexeme = .stray c) ∨
      (item.IsWord source ∧ ∃ first, located.lexeme = .word (String.ofList item.text) first ∧
        (first = true ↔ item.IsFirst source)))

namespace Cursor

/-- The cursor stands in the source behind the text `before`, where no word is cut apart, and none
begins within a comment. -/
structure Behind (source before : List Char) (cursor : Cursor) : Prop where
  /-- What is ahead of the cursor is the rest of the source. -/
  source_eq : source = before ++ cursor.rest
  /-- The line is counted over the text behind the cursor. -/
  line_eq : cursor.line = 1 + before.count '\n'
  /-- The cursor does not stand inside a run of word characters. -/
  uncut : ∀ c ∈ before.getLast?, isWordChar c = true →
    ∀ d ∈ cursor.rest.head?, isWordChar d = false
  /-- Within a comment it stands at the end of it. -/
  comment : InComment before → ∀ c ∈ cursor.rest.head?, c = '\n'
  /-- The flag is up as long as no word of the source begins on the line and behind the cursor. -/
  first_iff : cursor.atLineStart = true ↔
    ∀ word : Item, word.IsWord source → word.start < before.length → word.line ≠ cursor.line

variable {source before taken : List Char} {cursor cursor' : Cursor} {rest : List Char}
  {offset line : Nat} {first : Bool} {c : Char}

theorem behind_start (source : String) : Behind source.toList [] (start source) :=
  ⟨rfl, rfl, by simp, by simp [InComment], by simp [start, Item.start]⟩

/-- The line of an item that begins where the cursor stands. -/
theorem Behind.line_of_before_eq (h : Behind source before cursor) {item : Item}
    (hitem : item.before = before) : item.line = cursor.line := by
  rw [Item.line, hitem, h.line_eq]

/-- Only a newline stands where a comment ends. -/
theorem Behind.not_inComment (h : Behind source before ⟨c :: rest, offset, line, first⟩)
    (hc : c ≠ '\n') : ¬ InComment before :=
  fun hcomment ↦ hc (h.comment hcomment c rfl)

/-- Within a line the cursor can move on over text in which no word begins, if it comes to no place
within a word or a comment. -/
theorem Behind.move (h : Behind source before cursor) (hrest : cursor.rest = taken ++ cursor'.rest)
    (hline : cursor'.line = cursor.line) (hfirst : cursor'.atLineStart = cursor.atLineStart)
    (hnewline : '\n' ∉ taken)
    (hnone : ∀ word : Item, word.IsWord source → before.length ≤ word.start →
      (before ++ taken).length ≤ word.start)
    (huncut : ∀ c ∈ (before ++ taken).getLast?, isWordChar c = true →
      ∀ d ∈ cursor'.rest.head?, isWordChar d = false)
    (hcomment : InComment (before ++ taken) → ∀ c ∈ cursor'.rest.head?, c = '\n') :
    Behind source (before ++ taken) cursor' := by
  refine ⟨?_, ?_, huncut, hcomment, ?_⟩
  · rw [h.source_eq, hrest, List.append_assoc]
  · rw [hline, h.line_eq, List.count_append, List.count_eq_zero.2 hnewline, Nat.add_zero]
  · rw [hfirst, h.first_iff, hline, List.length_append]
    refine forall₂_congr fun word hword ↦ ?_
    have hstart := hnone word hword
    rw [List.length_append] at hstart
    exact ⟨fun hall hlt ↦ hall (by omega), fun hall hlt ↦ hall (by omega)⟩

/-- Behind a newline no word stands on the line. -/
theorem Behind.newline (h : Behind source before ⟨'\n' :: rest, offset, line, first⟩) :
    Behind source (before ++ ['\n']) ⟨rest, offset + 1, line + 1, true⟩ := by
  have hline : line = 1 + before.count '\n' := h.line_eq
  refine ⟨?_, ?_, ?_, ?_, ?_⟩
  · rw [h.source_eq, List.append_assoc]
    rfl
  · show line + 1 = _
    rw [hline, List.count_append, List.count_singleton_self, Nat.add_assoc]
  · simp [isWordChar_newline]
  · exact fun hcomment ↦ absurd rfl (inComment_concat.1 hcomment).1
  · refine ⟨fun _ word hword hstart ↦ ?_, fun _ ↦ rfl⟩
    obtain ⟨c, after, -, hsource⟩ := Item.IsItem.placed (.inr hword)
    have hprefix : word.before <+: before := by
      refine List.prefix_of_prefix_length_le ⟨_, hsource.symm⟩ ⟨_, h.source_eq.symm⟩ ?_
      rw [List.length_append, List.length_singleton, Item.start] at hstart
      omega
    have hcount := hprefix.sublist.count_le '\n'
    show word.line ≠ line + 1
    rw [Item.line]
    omega

/-- No item begins with a newline. -/
theorem Behind.newline_length_le (h : Behind source before ⟨'\n' :: rest, offset, line, first⟩)
    {item : Item} (hitem : item.IsItem source) (hstart : before.length ≤ item.start) :
    (before ++ ['\n']).length ≤ item.start := by
  have hsource : source = before ++ (['\n'] ++ rest) := h.source_eq
  refine (hitem.begins hsource hstart).resolve_right ?_
  rintro ⟨skipped, c, more, htaken, -, hc⟩
  have hmem : c ∈ ['\n'] := by
    rw [htaken]
    simp
  exact (hitem.head_ne hc).1 (List.mem_singleton.1 hmem)

/-- No item begins in a comment. -/
theorem Behind.comment_length_le (h : Behind source before ⟨'#' :: rest, offset, line, first⟩)
    {item : Item} (hitem : item.IsItem source) (hstart : before.length ≤ item.start) :
    (before ++ ('#' :: rest).takeWhile (· ≠ '\n')).length ≤ item.start := by
  have hsource := h.source_eq
  rw [← List.takeWhile_append_dropWhile (p := (· ≠ '\n')) (l := '#' :: rest)] at hsource
  refine (hitem.begins hsource hstart).resolve_right ?_
  rintro ⟨skipped, c, more, htaken, hbefore, hc⟩
  have hnewline : '\n' ∉ skipped ++ c :: more := htaken ▸ not_mem_takeWhile_of_neg (by simp)
  rw [List.takeWhile_cons_of_pos (by simp)] at htaken
  rcases skipped with - | ⟨d, skipped⟩
  · exact absurd (List.cons.inj htaken).1.symm (hitem.head_ne hc).2.1
  · -- what comes before the item opens the comment, and no newline ends it
    obtain rfl := (List.cons.inj htaken).1
    refine hitem.outside (hbefore ▸ inComment_of_hash (fun hmem ↦ hnewline ?_) before)
    exact List.mem_append_left _ (List.mem_cons_of_mem _ hmem)

/-- No item begins among blanks. -/
theorem Behind.blank_length_le (h : Behind source before ⟨c :: rest, offset, line, first⟩)
    {item : Item} (hitem : item.IsItem source) (hstart : before.length ≤ item.start) :
    (before ++ (c :: rest).takeWhile isBlank).length ≤ item.start := by
  have hsource := h.source_eq
  rw [← List.takeWhile_append_dropWhile (p := isBlank) (l := c :: rest)] at hsource
  refine (hitem.begins hsource hstart).resolve_right ?_
  rintro ⟨skipped, d, more, htaken, -, hd⟩
  have hmem : d ∈ (c :: rest).takeWhile isBlank := by
    rw [htaken]
    simp
  have hblank : isBlank d = true := List.mem_takeWhile_imp hmem
  simp [(hitem.head_ne hd).2.2] at hblank

/-- Where a control character stands no other item begins. -/
theorem Behind.stray_unique (h : Behind source before ⟨c :: rest, offset, line, first⟩)
    (hc : isStray c = true) {item : Item} (hitem : item.IsItem source)
    (hstart : before.length ≤ item.start) :
    item = ⟨before, [c]⟩ ∨ (before ++ [c]).length ≤ item.start := by
  have hsource : source = before ++ ([c] ++ rest) := h.source_eq
  refine (hitem.begins hsource hstart).symm.imp_left ?_
  rintro ⟨skipped, d, more, htaken, hbefore, hd⟩
  rcases skipped with - | ⟨e, skipped⟩
  · obtain rfl := (List.cons.inj htaken).1
    rcases hitem with ⟨d, hcontrol⟩ | hword
    · have htext := hcontrol.text_eq
      rw [htext] at hd
      obtain rfl := Option.some.inj hd
      exact Item.ext (by simpa using hbefore) htext
    · have hwordChar := wordChar_iff.1 (hword.chars c (List.mem_of_head? hd))
      rw [isWordChar_of_isStray hc] at hwordChar
      cases hwordChar
  · simp at htaken

/-- Where a word begins no other item begins up to its end. -/
theorem Behind.word_unique (h : Behind source before ⟨c :: rest, offset, line, first⟩)
    {item : Item} (hitem : item.IsItem source) (hstart : before.length ≤ item.start) :
    item = ⟨before, (c :: rest).takeWhile isWordChar⟩ ∨
      (before ++ (c :: rest).takeWhile isWordChar).length ≤ item.start := by
  have hsource := h.source_eq
  rw [← List.takeWhile_append_dropWhile (p := isWordChar) (l := c :: rest)] at hsource
  refine (hitem.begins hsource hstart).symm.imp_left ?_
  rintro ⟨skipped, d, more, htaken, hbefore, hd⟩
  have hrun : ∀ e ∈ skipped ++ d :: more, isWordChar e = true := fun e he ↦
    List.mem_takeWhile_imp (htaken ▸ he)
  rcases hitem with ⟨e, hcontrol⟩ | hword
  · rw [hcontrol.text_eq] at hd
    obtain rfl := Option.some.inj hd
    have hstray := isWordChar_of_isStray (isStray_eq_true_iff.2 hcontrol.control)
    rw [hrun e (by simp)] at hstray
    cases hstray
  · rcases skipped.eq_nil_or_concat with rfl | ⟨skipped, e, rfl⟩
    · rw [List.append_nil] at hbefore
      rw [← hbefore] at hsource
      exact Item.ext hbefore (hword.text_eq hsource (fun e he ↦ List.mem_takeWhile_imp he)
        (head?_dropWhile_eq_false isWordChar _))
    · have hleft := hword.left e (by simp [hbefore])
      exact absurd (wordChar_iff.2 (hrun e (by simp))) hleft

/-! ### Steps of the cursor

Each step of the cursor passes over a piece without items, or takes one. The invariant is carried
along, and with it the list of the items that are left. -/

/-- The comment is passed over up to its newline, which is the one place within it where a cursor
may stand. -/
theorem Behind.skip_comment (h : Behind source before ⟨'#' :: rest, offset, line, first⟩) :
    Behind source (before ++ ('#' :: rest).takeWhile (· ≠ '\n'))
      (skip (· ≠ '\n') ⟨'#' :: rest, offset, line, first⟩) := by
  have hnewline : ∀ c ∈ (('#' :: rest).dropWhile (· ≠ '\n')).head?, c = '\n' := fun c hc ↦ by
    simpa using head?_dropWhile_eq_false (· ≠ '\n') ('#' :: rest) c hc
  refine h.move List.takeWhile_append_dropWhile.symm rfl rfl (not_mem_takeWhile_of_neg (by simp))
    (fun word hword ↦ h.comment_length_le (.inr hword)) ?_ fun _ ↦ hnewline
  exact fun _ _ _ d hd ↦ hnewline d hd ▸ isWordChar_newline

/-- Blanks are passed over together, and neither the line nor the flag changes. -/
theorem Behind.skip_blank (h : Behind source before ⟨c :: rest, offset, line, first⟩)
    (hc : isBlank c = true) :
    Behind source (before ++ (c :: rest).takeWhile isBlank)
      (skip isBlank ⟨c :: rest, offset, line, first⟩) := by
  have hne : (c :: rest).takeWhile isBlank ≠ [] := by simp [hc]
  refine h.move List.takeWhile_append_dropWhile.symm rfl rfl
    (not_mem_takeWhile_of_neg isBlank_newline)
    (fun word hword ↦ h.blank_length_le (.inr hword)) ?_ ?_
  · intro d hd hword
    rw [List.getLast?_append_of_ne_nil _ hne] at hd
    have hblank : isBlank d = true := List.mem_takeWhile_imp (List.mem_of_getLast? hd)
    simp [(isWordChar_eq_true_iff.1 hword).2.2.1] at hblank
  · intro hcomment
    refine absurd (hcomment.of_append (not_mem_takeWhile_of_neg isBlank_hash)) ?_
    refine h.not_inComment ?_
    rintro rfl
    simp [isBlank_newline] at hc

/-- The control character at the cursor is an item, since the cursor is in no comment. -/
theorem Behind.isControl (h : Behind source before ⟨c :: rest, offset, line, first⟩)
    (hc : isStray c = true) : Item.IsControl source ⟨before, [c]⟩ c where
  text_eq := rfl
  control := isStray_eq_true_iff.1 hc
  outside := h.not_inComment (ne_newline_of_isStray hc)
  placed := ⟨rest, by rw [h.source_eq, List.append_assoc]; rfl⟩

/-- A control character leaves the flag as it is. -/
theorem Behind.take_stray (h : Behind source before ⟨c :: rest, offset, line, first⟩)
    (hc : isStray c = true) :
    Behind source (before ++ [c]) (takeStray ⟨c :: rest, offset, line, first⟩ c rest).2 := by
  refine h.move rfl rfl rfl (by simpa using (ne_newline_of_isStray hc).symm) ?_ ?_ ?_
  · intro word hword hstart
    refine (h.stray_unique hc (.inr hword) hstart).resolve_left ?_
    rintro rfl
    have hwordChar := wordChar_iff.1 (hword.chars c List.mem_cons_self)
    simp [isWordChar_of_isStray hc] at hwordChar
  · simp [isWordChar_of_isStray hc]
  · intro hcomment
    have hhash : '#' ∉ [c] := by
      rw [List.mem_singleton]
      rintro rfl
      exact absurd hc (by decide)
    exact absurd (hcomment.of_append hhash) (h.not_inComment (ne_newline_of_isStray hc))

/-- The run of word characters at the cursor is an item. It is longest to the left because the
cursor cuts no word apart, and to the right because it was taken as far as it goes. -/
theorem Behind.isWord (h : Behind source before ⟨c :: rest, offset, line, first⟩)
    (hc : isWordChar c = true) :
    Item.IsWord source ⟨before, (c :: rest).takeWhile isWordChar⟩ where
  nonempty := by simp [hc]
  chars d hd := wordChar_iff.2 (List.mem_takeWhile_imp hd)
  outside := h.not_inComment (isWordChar_eq_true_iff.1 hc).1
  left d hd hword := by
    have huncut := h.uncut d hd (wordChar_iff.1 hword) c rfl
    simp [hc] at huncut
  right := by
    refine ⟨(c :: rest).dropWhile isWordChar, ?_, fun d hd ↦ ?_⟩
    · rw [List.append_assoc, List.takeWhile_append_dropWhile]
      exact h.source_eq
    · exact not_wordChar_iff.2 (head?_dropWhile_eq_false isWordChar _ d hd)

/-- Behind a word the flag is down, since that word stands on the line. -/
theorem Behind.take_word (h : Behind source before ⟨c :: rest, offset, line, first⟩)
    (hc : isWordChar c = true) :
    Behind source (before ++ (c :: rest).takeWhile isWordChar)
      (takeWord ⟨c :: rest, offset, line, first⟩).2 := by
  have hnewline : '\n' ∉ (c :: rest).takeWhile isWordChar :=
    not_mem_takeWhile_of_neg isWordChar_newline
  refine ⟨?_, ?_, fun _ _ _ ↦ head?_dropWhile_eq_false isWordChar _, ?_, ?_⟩
  · rw [List.append_assoc]
    exact h.source_eq.trans (congrArg _ List.takeWhile_append_dropWhile.symm)
  · rw [List.count_append, List.count_eq_zero.2 hnewline, Nat.add_zero]
    exact h.line_eq
  · intro hcomment
    exact absurd (hcomment.of_append (not_mem_takeWhile_of_neg isWordChar_hash))
      (h.not_inComment (isWordChar_eq_true_iff.1 hc).1)
  · refine ⟨fun hfalse ↦ absurd hfalse (by simp [takeWord]), fun hall ↦ ?_⟩
    refine absurd (h.line_of_before_eq rfl) (hall _ (h.isWord hc) ?_)
    rw [Item.start, List.length_append]
    exact Nat.lt_add_of_pos_right (List.length_pos_of_ne_nil (h.isWord hc).nonempty)

/-- The control character that is taken is an item. -/
theorem Behind.matches_stray (h : Behind source before ⟨c :: rest, offset, line, first⟩)
    (hc : isStray c = true) :
    Item.Matches source ⟨before, [c]⟩ (takeStray ⟨c :: rest, offset, line, first⟩ c rest).1 :=
  ⟨(h.line_of_before_eq rfl).symm, .inl ⟨c, h.isControl hc, rfl⟩⟩

/-- The word that is taken is an item, and the flag says whether it is the first of its line. -/
theorem Behind.matches_word (h : Behind source before ⟨c :: rest, offset, line, first⟩)
    (hc : isWordChar c = true) :
    Item.Matches source ⟨before, (c :: rest).takeWhile isWordChar⟩
      (takeWord ⟨c :: rest, offset, line, first⟩).1 := by
  refine ⟨(h.line_of_before_eq rfl).symm, .inr ⟨h.isWord hc, first, rfl, ?_⟩⟩
  rw [Item.IsFirst, h.line_of_before_eq rfl]
  exact h.first_iff

/-- **The lexemes ahead are the items that begin behind the cursor**, in order. -/
theorem Behind.exists_items (h : Behind source before cursor) :
    ∃ items, ItemsBehind source before items ∧
      List.Forall₂ (Item.Matches source) items cursor.items := by
  -- the six cases are those of one step of the scanner: three of them take nothing, and no item
  -- begins in the text that they pass over; one has nothing left; two take the item that begins at
  -- the cursor
  induction cursor using Cursor.induction generalizing before with
  | nil offset line first =>
    refine ⟨[], ⟨.nil, fun item ↦ ?_⟩, by rw [items_nil]; exact .nil⟩
    simp only [List.not_mem_nil, false_iff, not_and, Nat.not_le]
    intro hitem
    obtain ⟨c, after, -, hsource⟩ := hitem.placed
    rw [h.source_eq, List.append_nil] at hsource
    rw [hsource, List.length_append]
    exact Nat.lt_add_of_pos_right (Nat.succ_pos _)
  | newline rest offset line first ih =>
    obtain ⟨items, hitems, hmatch⟩ := ih h.newline
    rw [items_newline]
    exact ⟨items, hitems.skip fun item hitem ↦ h.newline_length_le hitem, hmatch⟩
  | comment rest offset line first ih =>
    obtain ⟨items, hitems, hmatch⟩ := ih h.skip_comment
    rw [items_comment]
    exact ⟨items, hitems.skip fun item hitem ↦ h.comment_length_le hitem, hmatch⟩
  | blank c rest offset line first hc ih =>
    obtain ⟨items, hitems, hmatch⟩ := ih (h.skip_blank hc)
    rw [items_blank hc]
    exact ⟨items, hitems.skip fun item hitem ↦ h.blank_length_le hitem, hmatch⟩
  | stray c rest offset line first hc ih =>
    obtain ⟨items, hitems, hmatch⟩ := ih (h.take_stray hc)
    rw [items_stray hc]
    exact ⟨⟨before, [c]⟩ :: items, hitems.cons ⟨before, [c]⟩
      (.inl ⟨c, h.isControl hc⟩) (List.cons_ne_nil _ _)
      (fun other hother ↦ h.stray_unique hc hother), .cons (h.matches_stray hc) hmatch⟩
  | word c rest offset line first hc ih =>
    obtain ⟨items, hitems, hmatch⟩ := ih (h.take_word hc)
    have hword := h.isWord hc
    rw [items_word hc]
    exact ⟨⟨before, (c :: rest).takeWhile isWordChar⟩ :: items,
      hitems.cons ⟨before, (c :: rest).takeWhile isWordChar⟩ (.inr hword) hword.nonempty
        (fun other hother ↦ h.word_unique hother), .cons (h.matches_word hc) hmatch⟩

end Cursor

end IppCode
