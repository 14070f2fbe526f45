import IppCode.Parse
import IppCode.Proofs.Scan.Append
import IppCode.Proofs.Scan.Reference
import IppCode.Proofs.Validation.Agreement
import IppCode.Proofs.Words.Classification

/-!
# The case of keywords

The header and the mnemonics that begin a line may be written in any case. Where one text differs
from another in the case of such letters only (`Recased`), both are scanned alike, so they are
validated alike (`recased_invariant`).

`Recased` says where the texts may differ, and not how one is made from the other: at every place
where they do, a keyword of the first covers the place. So any number of letters may differ, in any
number of keywords, and no list of replacements has to be kept.

Both texts are gone through at once (`Cursor.Behind.map_result_items`). What begins at a place is of
one sort in both, since letters are word characters in either case. Words that differ are a keyword:
two words of the source that share a place are one word (`Item.IsWord.unique`), and so the keyword
that covers the difference is the word that has been come to. Words that do not differ are the same,
and nothing has to be known of them.

Lexemes are compared by the results that they give and not as they are. The texts of keywords
differ, and so would the lexemes; that the text of a keyword does not matter is what is to be shown.

Folding is that of ASCII. There are characters beyond it whose upper case is an ASCII letter, such
as the Kelvin sign, and a word that holds one of them is no keyword in either text.
-/

namespace IppCode

/-! ### Letters

Two characters are the same up to case if they are equal, or are a letter in both of its cases. The
scanner treats such characters alike, since all of its separators are no letters. -/

/-- The characters are the same up to the case of the letters `A` to `Z`. -/
inductive SameLetter : Char → Char → Prop
  /-- Any character is the same as itself. -/
  | refl (c : Char) : SameLetter c c
  /-- The first is the small letter. -/
  | lower {c d : Char} (hletter : 'a' ≤ c ∧ c ≤ 'z') (hcase : c.toNat = d.toNat + 32) :
    SameLetter c d
  /-- The second is the small letter. -/
  | upper {c d : Char} (hletter : 'a' ≤ d ∧ d ≤ 'z') (hcase : d.toNat = c.toNat + 32) :
    SameLetter c d

section Letters

variable {c d : Char}

theorem isLower_eq_true_iff : c.isLower = true ↔ 'a' ≤ c ∧ c ≤ 'z' := by
  rw [Char.isLower, Bool.and_eq_true, decide_eq_true_eq, decide_eq_true_eq]
  exact Iff.rfl

/-- The lower-case letters stand 32 places behind the others. -/
theorem toNat_toUpper (h : c.isLower = true) : c.toNat = c.toUpper.toNat + 32 := by
  have hletter : 97 ≤ c.toNat ∧ c.toNat ≤ 122 := isLower_eq_true_iff.1 h
  have hvalid : (c.toNat - 32).isValidChar := .inl (by omega)
  rw [Char.toUpper_eq_of_isLower h, Char.toNat_ofNat, if_pos hvalid]
  omega

/-- A lower-case letter is folded to the character 32 places in front of it, which is folded to
itself. -/
theorem toUpper_eq_of_toNat (hletter : 'a' ≤ c ∧ c ≤ 'z') (hcase : c.toNat = d.toNat + 32) :
    c.toUpper = d.toUpper := by
  have hrange : 97 ≤ c.toNat ∧ c.toNat ≤ 122 := hletter
  have hlower : ¬ d.isLower = true := fun h ↦ by
    have hd : 97 ≤ d.toNat ∧ d.toNat ≤ 122 := isLower_eq_true_iff.1 h
    omega
  have hc := toNat_toUpper (isLower_eq_true_iff.2 hletter)
  rw [Char.toUpper_eq_of_not_isLower hlower, ← Char.toNat_inj]
  omega

/-- Folding is what makes the letters the same, and it makes no others so. -/
theorem sameLetter_iff : SameLetter c d ↔ c.toUpper = d.toUpper := by
  constructor
  · intro h
    cases h with
    | refl => rfl
    | lower hletter hcase => exact toUpper_eq_of_toNat hletter hcase
    | upper hletter hcase => exact (toUpper_eq_of_toNat hletter hcase).symm
  · intro h
    by_cases hc : c.isLower = true <;> by_cases hd : d.isLower = true
    · have hcase := toNat_toUpper hc
      rw [h, ← toNat_toUpper hd, Char.toNat_inj] at hcase
      exact hcase ▸ .refl c
    · have hcase := toNat_toUpper hc
      rw [h, Char.toUpper_eq_of_not_isLower hd] at hcase
      exact .lower (isLower_eq_true_iff.1 hc) hcase
    · have hcase := toNat_toUpper hd
      rw [← h, Char.toUpper_eq_of_not_isLower hc] at hcase
      exact .upper (isLower_eq_true_iff.1 hd) hcase
    · rw [Char.toUpper_eq_of_not_isLower hc, Char.toUpper_eq_of_not_isLower hd] at h
      exact h ▸ .refl c

/-- What is the same up to case is the same, or word characters. -/
theorem SameLetter.eq_or_isWordChar (h : SameLetter c d) :
    d = c ∨ isWordChar c = true ∧ isWordChar d = true := by
  have hletters : ∀ {c d : Char}, 'a' ≤ c ∧ c ≤ 'z' → c.toNat = d.toNat + 32 →
      isWordChar c = true ∧ isWordChar d = true := fun {c d} hletter hcase ↦ by
    have hrange : 97 ≤ c.toNat ∧ c.toNat ≤ 122 := hletter
    exact ⟨isWordChar_of_toNat (by omega) hletter.2, isWordChar_of_toNat (by omega) (by omega)⟩
  cases h with
  | refl => exact .inl rfl
  | lower hletter hcase => exact .inr (hletters hletter hcase)
  | upper hletter hcase => exact .inr (hletters hletter hcase).symm

/-- What stands outside words is the same in both texts. -/
theorem SameLetter.eq_of_not_isWordChar (h : SameLetter c d) (hc : isWordChar c = false) :
    d = c :=
  h.eq_or_isWordChar.resolve_right (by simp [hc])

theorem SameLetter.isWordChar_eq (h : SameLetter c d) : isWordChar c = isWordChar d := by
  rcases h.eq_or_isWordChar with rfl | ⟨hc, hd⟩
  · rfl
  · rw [hc, hd]

theorem SameLetter.isBlank_eq (h : SameLetter c d) : isBlank c = isBlank d := by
  rcases h.eq_or_isWordChar with rfl | ⟨hc, hd⟩
  · rfl
  · rw [isBlank_of_isWordChar hc, isBlank_of_isWordChar hd]

theorem SameLetter.eq_newline_iff (h : SameLetter c d) : c = '\n' ↔ d = '\n' := by
  rcases h.eq_or_isWordChar with rfl | ⟨hc, hd⟩
  · rfl
  · exact iff_of_false (isWordChar_eq_true_iff.1 hc).1 (isWordChar_eq_true_iff.1 hd).1

end Letters

/-! ### Texts

Texts that are the same up to case, character by character. Their runs have the same lengths and
they have the same lines. -/

section Texts

variable {text other : List Char}

/-- Texts are the same up to case exactly when they are folded to one text. -/
theorem forall₂_sameLetter_iff :
    List.Forall₂ SameLetter text other ↔ text.map Char.toUpper = other.map Char.toUpper := by
  have hsame : SameLetter = fun c d ↦ c.toUpper = d.toUpper :=
    funext fun c ↦ funext fun d ↦ propext sameLetter_iff
  rw [← List.forall₂_eq_eq_eq, List.forall₂_map_left_iff, List.forall₂_map_right_iff, hsame]

/-- A run ends at the same place in both, if its characters are told regardless of case. -/
theorem forall₂_run {p : Char → Bool} (hp : ∀ c d, SameLetter c d → p c = p d)
    (h : List.Forall₂ SameLetter text other) :
    List.Forall₂ SameLetter (text.takeWhile p) (other.takeWhile p) ∧
      List.Forall₂ SameLetter (text.dropWhile p) (other.dropWhile p) := by
  induction h with
  | nil => exact ⟨.nil, .nil⟩
  | @cons c d text other hhead htail ih =>
    rcases hc : p c with - | -
    · have hd : p d = false := hp c d hhead ▸ hc
      simp only [List.takeWhile_cons, List.dropWhile_cons, hc, hd]
      exact ⟨.nil, .cons hhead htail⟩
    · have hd : p d = true := hp c d hhead ▸ hc
      simp only [List.takeWhile_cons, List.dropWhile_cons, hc, hd]
      exact ⟨.cons hhead ih.1, ih.2⟩

theorem count_newline_eq (h : List.Forall₂ SameLetter text other) :
    text.count '\n' = other.count '\n' := by
  induction h with
  | nil => rfl
  | @cons c d text other hhead _ ih =>
    rw [List.count_cons, List.count_cons, ih]
    simp only [beq_iff_eq, hhead.eq_newline_iff]

end Texts

/-! ### Words that share a place

A place in the source is covered by one word at most, so the keyword at a place where the texts
differ is found by going to the place. -/

namespace Item

variable {source : List Char} {item other : Item} {i : Nat}

/-- The place is within the piece. -/
def Covers (item : Item) (i : Nat) : Prop :=
  item.start ≤ i ∧ i < item.start + item.text.length

/-- Word characters only stand within a word. -/
theorem IsWord.wordChar_of_covers (h : item.IsWord source) (hcovers : item.Covers i) {c : Char}
    (hc : source[i]? = some c) : WordChar c := by
  obtain ⟨after, hsource, -⟩ := h.right
  obtain ⟨hstart, hend⟩ := hcovers
  rw [start] at hstart hend
  rw [hsource, List.append_assoc, List.getElem?_append_right hstart,
    List.getElem?_append_left (by omega)] at hc
  exact h.chars c (List.mem_of_getElem? hc)

/-- Of two words that share a place none begins within the other. -/
theorem IsWord.start_le (h : item.IsWord source) (h' : other.IsWord source)
    (hcovers : item.Covers i) (hcovers' : other.Covers i) : other.start ≤ item.start := by
  by_contra hlt
  obtain ⟨after, hsource, -⟩ := h'.right
  rcases other.before.eq_nil_or_concat with hbefore | ⟨before, c, hbefore⟩
  · simp [start, hbefore] at hlt
  -- the character in front of the other word is one of the first
  rw [List.concat_eq_append] at hbefore
  have hother : other.start = before.length + 1 := by
    rw [start, hbefore, List.length_append, List.length_singleton]
  have hc : source[before.length]? = some c := by
    rw [hsource, hbefore]
    simp
  refine h'.left c (by simp [hbefore]) (h.wordChar_of_covers ⟨by omega, ?_⟩ hc)
  have hend := hcovers.2
  have hstart := hcovers'.1
  omega

/-- **Two words that share a place are one.** -/
theorem IsWord.unique (h : item.IsWord source) (h' : other.IsWord source)
    (hcovers : item.Covers i) (hcovers' : other.Covers i) : item = other := by
  have hstart : item.before.length = other.before.length :=
    Nat.le_antisymm (h'.start_le h hcovers' hcovers) (h.start_le h' hcovers hcovers')
  obtain ⟨after, hsource, -⟩ := h.right
  obtain ⟨after', hsource', hafter'⟩ := h'.right
  have hsame := hsource.symm.trans hsource'
  rw [List.append_assoc, List.append_assoc] at hsame
  have hbefore := (List.append_inj hsame hstart).1
  rw [← hbefore, List.append_assoc] at hsource'
  exact Item.ext hbefore (h.text_eq hsource' (fun c hc ↦ wordChar_iff.1 (h'.chars c hc))
    fun c hc ↦ not_wordChar_iff.1 (hafter' c hc))

end Item

/-! ### Keywords

What it means for a text to differ from another in its keywords only, and that a word which is a
keyword is taken for the same in any case. -/

/-- The word is the header, or the mnemonic that begins its line, in whatever case. -/
def Item.IsKeyword (source : List Char) (word : Item) : Prop :=
  word.IsWord source ∧
    (List.Forall₂ SameLetter word.text headerText.toList ∨
      word.IsFirst source ∧
        ∃ opcode : Opcode, List.Forall₂ SameLetter word.text opcode.mnemonic.toList)

/-- The other text differs from the source in the case of letters of keywords only. -/
structure Recased (source other : List Char) : Prop where
  /-- The texts have the same length, and differ in the case of letters only. -/
  letters : List.Forall₂ SameLetter source other
  /-- Wherever they differ, a keyword of the source stands there. -/
  keywords : ∀ i : Nat, source[i]? ≠ other[i]? →
    ∃ word : Item, word.IsKeyword source ∧ word.Covers i

/-- The comparison that the classification makes is the same as that of the two texts letter by
letter. -/
theorem sameIgnoringCase_iff_forall₂ {word keyword : String} :
    Text.sameIgnoringCase word keyword = true ↔
      List.Forall₂ SameLetter word.toList keyword.toList := by
  rw [Text.sameIgnoringCase_iff, ← String.toList_inj, Text.toList_upperCase,
    Text.toList_upperCase, forall₂_sameLetter_iff]

namespace TokenKind

variable {word : String} {first : Bool}

/-- A word is the header exactly when it is spelled so, up to the case of letters. -/
theorem ofWord_header_iff :
    ofWord word first = .ok header ↔ List.Forall₂ SameLetter word.toList headerText.toList :=
  ofWord_eq_header_iff.trans sameIgnoringCase_iff_forall₂

/-- The first word of a line is an opcode exactly when it is its mnemonic, up to the case of
letters, and no other word is one. -/
theorem ofWord_opcode_iff {opcode : Opcode} :
    ofWord word first = .ok (.opcode opcode) ↔
      first = true ∧ List.Forall₂ SameLetter word.toList opcode.mnemonic.toList := by
  rw [ofWord_eq_opcode_iff, ← sameIgnoringCase_iff_forall₂, Text.sameIgnoringCase_iff,
    Text.sameIgnoringCase_iff, @eq_comm _ (Text.upperCase word)]

/-- A keyword is taken for the same in every case. -/
theorem ofWord_recased {text other : List Char} (hsame : List.Forall₂ SameLetter text other)
    (hkeyword : List.Forall₂ SameLetter text headerText.toList ∨
      first = true ∧ ∃ opcode : Opcode, List.Forall₂ SameLetter text opcode.mnemonic.toList) :
    ofWord (String.ofList other) first = ofWord (String.ofList text) first := by
  have hother : ∀ {keyword : List Char}, List.Forall₂ SameLetter text keyword →
      List.Forall₂ SameLetter other keyword := fun h ↦ by
    rw [forall₂_sameLetter_iff] at hsame h ⊢
    exact hsame.symm.trans h
  rcases hkeyword with hheader | ⟨rfl, opcode, hopcode⟩
  · have htext : ofWord (String.ofList text) first = .ok header :=
      ofWord_header_iff.2 (by rwa [String.toList_ofList])
    rw [htext, ofWord_header_iff, String.toList_ofList]
    exact hother hheader
  · have htext : ofWord (String.ofList text) true = .ok (.opcode opcode) :=
      ofWord_opcode_iff.2 ⟨rfl, by rwa [String.toList_ofList]⟩
    rw [htext, ofWord_opcode_iff, String.toList_ofList]
    exact ⟨rfl, hother hopcode⟩

end TokenKind

/-! ### Going through both texts

Two cursors at the same place of the two texts. What they deliver is compared by its result, with
the invariant of the first cursor at hand to tell which word of the source it has come to. -/

/-- A run consists of the first characters. -/
theorem getElem?_takeWhile {α : Type} {p : α → Bool} {xs : List α} {i : Nat}
    (h : i < (xs.takeWhile p).length) : (xs.takeWhile p)[i]? = xs[i]? := by
  rw [List.getElem?_eq_getElem h, List.prefix_iff_getElem?.1 (List.takeWhile_prefix p) i h]

/-- What is left of a text behind two pieces is what is left behind the second of what is left
behind the first. -/
theorem drop_length_append {α : Type} {text before taken taken' rest : List α}
    (h : text.drop before.length = taken' ++ rest) (hlength : taken'.length = taken.length) :
    text.drop (before ++ taken).length = rest := by
  rw [List.length_append, ← List.drop_drop, h, ← hlength, List.drop_left]

namespace Cursor

variable {source other before : List Char}

/-- The flag of the cursor says whether the word that begins there is the first of its line. It
depends on what is behind the cursor alone, so it is the same whatever the word is. -/
theorem Behind.isFirst_iff {cursor : Cursor} (h : Behind source before cursor)
    (text : List Char) : Item.IsFirst source ⟨before, text⟩ ↔ cursor.atLineStart = true := by
  rw [Item.IsFirst, h.line_of_before_eq rfl]
  exact h.first_iff.symm

/-- The words that begin where both texts have been come to are taken for the same. -/
theorem Behind.ofWord_eq {c d : Char} {rest rest' : List Char} {offset line : Nat} {first : Bool}
    (h : Behind source before ⟨c :: rest, offset, line, first⟩) (hrecased : Recased source other)
    (hc : isWordChar c = true) (hother : other.drop before.length = d :: rest')
    (hsame : List.Forall₂ SameLetter ((c :: rest).takeWhile isWordChar)
      ((d :: rest').takeWhile isWordChar)) :
    TokenKind.ofWord (String.ofList ((d :: rest').takeWhile isWordChar)) first =
      TokenKind.ofWord (String.ofList ((c :: rest).takeWhile isWordChar)) first := by
  by_cases heq : (c :: rest).takeWhile isWordChar = (d :: rest').takeWhile isWordChar
  · rw [heq]
  -- otherwise there is a place where they differ, and it lies within both words, since these are
  -- equally long
  obtain ⟨j, hj⟩ : ∃ j, ((c :: rest).takeWhile isWordChar)[j]? ≠
      ((d :: rest').takeWhile isWordChar)[j]? := by
    rw [← not_forall]
    exact fun hall ↦ heq (List.ext_getElem? hall)
  have hlength := hsame.length_eq
  have hlt : j < ((c :: rest).takeWhile isWordChar).length := by
    by_contra hle
    rw [List.getElem?_eq_none (by omega), List.getElem?_eq_none (by omega)] at hj
    exact hj rfl
  have htext : source[before.length + j]? = ((c :: rest).takeWhile isWordChar)[j]? := by
    rw [getElem?_takeWhile hlt, h.source_eq, List.getElem?_append_right (Nat.le_add_right _ _),
      Nat.add_sub_cancel_left]
  have htext' : other[before.length + j]? = ((d :: rest').takeWhile isWordChar)[j]? := by
    rw [getElem?_takeWhile (hlength ▸ hlt), ← List.getElem?_drop, hother]
  -- the keyword that covers the difference is the word
  obtain ⟨keyword, ⟨hkeyword, hspelled⟩, hcovers⟩ :=
    hrecased.keywords (before.length + j) (by rwa [htext, htext'])
  obtain rfl := hkeyword.unique (h.isWord hc) hcovers
    ⟨Nat.le_add_right _ _, Nat.add_lt_add_left hlt _⟩
  rw [h.isFirst_iff] at hspelled
  exact TokenKind.ofWord_recased hsame hspelled

/-- **The lexemes ahead of both cursors are taken for the same.** -/
theorem Behind.map_result_items {cursor : Cursor} (h : Behind source before cursor)
    (hrecased : Recased source other) {rest' : List Char}
    (hother : other.drop before.length = rest')
    (hsame : List.Forall₂ SameLetter cursor.rest rest') (offset' : Nat) :
    (items ⟨rest', offset', cursor.line, cursor.atLineStart⟩).map Located.result =
      cursor.items.map Located.result := by
  -- what is no word character is the same in both; runs are as long in the one as in the other
  induction cursor using Cursor.induction generalizing before rest' offset' with
  | nil offset line first =>
    cases hsame
    rw [items_nil, items_nil]
  | newline rest offset line first ih =>
    rcases hsame with - | @⟨_, d, _, rest', hhead, htail⟩
    obtain rfl := hhead.eq_of_not_isWordChar isWordChar_newline
    rw [items_newline, items_newline]
    have hrest := drop_length_append (hother.trans List.singleton_append.symm) rfl
    exact ih h.newline hrest htail (offset' + 1)
  | comment rest offset line first ih =>
    have hrun := forall₂_run (p := (· ≠ '\n'))
      (fun c d hcd ↦ by simp only [ne_eq, hcd.eq_newline_iff]) hsame
    rcases hsame with - | @⟨_, d, _, rest', hhead, htail⟩
    obtain rfl := hhead.eq_of_not_isWordChar isWordChar_hash
    rw [items_comment, items_comment]
    refine ih h.skip_comment (drop_length_append ?_ hrun.1.length_eq.symm) hrun.2 _
    rw [hother, List.takeWhile_append_dropWhile]
  | blank c rest offset line first hc ih =>
    have hrun := forall₂_run (fun c d hcd ↦ hcd.isBlank_eq) hsame
    rcases hsame with - | @⟨_, d, _, rest', hhead, htail⟩
    obtain rfl := hhead.eq_of_not_isWordChar (isWordChar_of_isBlank hc)
    rw [items_blank hc, items_blank hc]
    refine ih (h.skip_blank hc) (drop_length_append ?_ hrun.1.length_eq.symm) hrun.2 _
    rw [hother, List.takeWhile_append_dropWhile]
  | stray c rest offset line first hc ih =>
    rcases hsame with - | @⟨_, d, _, rest', hhead, htail⟩
    obtain rfl := hhead.eq_of_not_isWordChar (isWordChar_of_isStray hc)
    rw [items_stray hc, items_stray hc, List.map_cons, List.map_cons]
    have hdrop := drop_length_append (hother.trans List.singleton_append.symm) rfl
    have hrest := ih (h.take_stray hc) hdrop htail (offset' + d.utf8Size)
    exact congrArg₂ List.cons (Located.result_congr rfl rfl) hrest
  | word c rest offset line first hc ih =>
    have hrun := forall₂_run (fun c d hcd ↦ hcd.isWordChar_eq) hsame
    rcases hsame with - | @⟨_, d, _, rest', hhead, htail⟩
    have hd : isWordChar d = true := hhead.isWordChar_eq ▸ hc
    have hword := h.ofWord_eq hrecased hc hother hrun.1
    have hsplit := List.takeWhile_append_dropWhile (p := isWordChar) (l := d :: rest')
    have hrest := ih (h.take_word hc)
      (drop_length_append (hother.trans hsplit.symm) hrun.1.length_eq.symm) hrun.2
      (offset' + utf8Length ((d :: rest').takeWhile isWordChar))
    rw [items_word hc, items_word hd, List.map_cons, List.map_cons]
    exact congrArg₂ List.cons (Located.result_congr_kind hword rfl) hrest

end Cursor

/-- Recased texts are scanned to the same. -/
theorem scan_recased {source other : String} (h : Recased source.toList other.toList) :
    scan source = scan other := by
  have hitems := (Cursor.behind_start source).map_result_items h rfl h.letters 0
  rw [scan_eq, scan_eq, Cursor.lastLine_start, Cursor.lastLine_start, count_newline_eq h.letters]
  exact congrArg (· ++ _) hitems.symm

/-! ### Recognition

Words with characters beyond ASCII, whose case is not folded, are no keywords. -/

/-- What is the same up to case as a text of ASCII characters is such a text. -/
theorem toNat_lt_of_forall₂ {text keyword : List Char} (h : List.Forall₂ SameLetter text keyword)
    (hkeyword : keyword.all (·.toNat < 0x80) = true) : ∀ c ∈ text, c.toNat < 0x80 := by
  induction h with
  | nil => exact List.forall_mem_nil _
  | @cons c d text keyword hhead _ ih =>
    rw [List.all_cons, Bool.and_eq_true, decide_eq_true_eq] at hkeyword
    refine List.forall_mem_cons.2 ⟨?_, ih hkeyword.2⟩
    cases hhead with
    | refl => exact hkeyword.1
    | lower hletter hcase => exact Nat.lt_of_le_of_lt hletter.2 (by decide)
    | upper hletter hcase => omega

/-- **The case of keywords does not matter, and nothing else is folded.** Sources that differ in the
case of letters of keywords only are parsed to one document or fail with one failure. A word is
taken for the header, or the first word of a line for an opcode, exactly when it is spelled so up to
the case of the letters `A` to `Z`; so none that holds a character beyond ASCII is. -/
theorem recased_invariant :
    (∀ source other : String, Recased source.toList other.toList →
      (parseSource source).result = (parseSource other).result) ∧
    ∀ (word : String) (first : Bool),
      (TokenKind.ofWord word first = .ok .header ↔
        List.Forall₂ SameLetter word.toList headerText.toList) ∧
      (∀ opcode : Opcode, TokenKind.ofWord word first = .ok (.opcode opcode) ↔
        first = true ∧ List.Forall₂ SameLetter word.toList opcode.mnemonic.toList) ∧
      ((∃ c ∈ word.toList, 0x80 ≤ c.toNat) → TokenKind.ofWord word first ≠ .ok .header ∧
        ∀ opcode : Opcode, TokenKind.ofWord word first ≠ .ok (.opcode opcode)) := by
  refine ⟨fun source other h ↦ validate_congr (scan_recased h), fun word first ↦
    ⟨TokenKind.ofWord_header_iff, fun opcode ↦ TokenKind.ofWord_opcode_iff, ?_⟩⟩
  rintro ⟨c, hc, hbeyond⟩
  have hnot : ∀ keyword : String, keyword.toList.all (·.toNat < 0x80) = true →
      ¬ List.Forall₂ SameLetter word.toList keyword.toList := fun keyword hkeyword h ↦
    absurd (toNat_lt_of_forall₂ h hkeyword c hc) (Nat.not_lt.2 hbeyond)
  refine ⟨fun h ↦ hnot headerText (by decide) (TokenKind.ofWord_header_iff.1 h), fun opcode h ↦ ?_⟩
  exact hnot opcode.mnemonic (by cases opcode <;> decide) (TokenKind.ofWord_opcode_iff.1 h).2

/-- The header and a mnemonic in other letters. -/
theorem recased_break :
    Recased ".IPPcode23\nbreak x".toList ".ippCODE23\nBREAK x".toList := by
  have hstart : Cursor.Behind ".IPPcode23\nbreak x".toList []
      ⟨'.' :: "IPPcode23\nbreak x".toList, 0, 1, true⟩ :=
    Cursor.behind_start ".IPPcode23\nbreak x"
  have hline : Cursor.Behind ".IPPcode23\nbreak x".toList ".IPPcode23\n".toList
      ⟨'b' :: "reak x".toList, 11, 2, true⟩ := by
    have hword : Cursor.Behind ".IPPcode23\nbreak x".toList ".IPPcode23".toList
      ⟨'\n' :: "break x".toList, 10, 1, false⟩ := hstart.take_word (by decide)
    exact hword.newline
  have hheader : Item.IsKeyword ".IPPcode23\nbreak x".toList ⟨[], ".IPPcode23".toList⟩ :=
    ⟨hstart.isWord (by decide), .inl (forall₂_sameLetter_iff.2 (by decide))⟩
  have hopcode : Item.IsKeyword ".IPPcode23\nbreak x".toList
      ⟨".IPPcode23\n".toList, "break".toList⟩ :=
    ⟨hline.isWord (by decide), .inr ⟨(hline.isFirst_iff _).2 rfl, .brk,
      forall₂_sameLetter_iff.2 (by decide)⟩⟩
  have hplaces : ∀ i < 18, ".IPPcode23\nbreak x".toList[i]? ≠ ".ippCODE23\nBREAK x".toList[i]? →
      i < 10 ∨ 11 ≤ i ∧ i < 16 := by decide
  refine ⟨forall₂_sameLetter_iff.2 (by decide), fun i hi ↦ ?_⟩
  have hlt : i < 18 := Nat.lt_of_not_le fun hle ↦
    hi ((List.getElem?_eq_none hle).trans (List.getElem?_eq_none hle).symm)
  rcases hplaces i hlt hi with hfirst | hsecond
  · exact ⟨_, hheader, Nat.zero_le i, hfirst⟩
  · exact ⟨_, hopcode, hsecond⟩

/-- An operand too many fails alike in both texts, and the Kelvin sign is not taken for a letter. -/
theorem recased_invariant_break :
    Recased ".IPPcode23\nbreak x".toList ".ippCODE23\nBREAK x".toList ∧
    (parseSource ".IPPcode23\nbreak x").result = (parseSource ".ippCODE23\nBREAK x").result ∧
    (∃ c ∈ "brea\u212a".toList, 0x80 ≤ c.toNat) ∧
    TokenKind.ofWord "brea\u212a" true ≠ .ok .header ∧
    ∀ opcode : Opcode, TokenKind.ofWord "brea\u212a" true ≠ .ok (.opcode opcode) := by
  have hkelvin : ∃ c ∈ "brea\u212a".toList, 0x80 ≤ c.toNat := ⟨'\u212a', by decide, by decide⟩
  have hunfolded := (recased_invariant.2 "brea\u212a" true).2.2 hkelvin
  exact ⟨recased_break, recased_invariant.1 _ _ recased_break, hkelvin, hunfolded⟩

end IppCode
