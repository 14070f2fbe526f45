import IppCode.Failure
import Mathlib

/-!
# Recognising keywords

The header, the mnemonics, the frames and the type names are the words with a meaning of their own
(`Keyword`). No two of them are displayed alike, not even up to case, so a text agrees with one at
most (`Keyword.eq_of_sameIgnoringCase`).

A family lists all of its members and is searched for the first that fits a text. No other can fit,
so the search finds a member exactly when the text spells it (`Frame.ofText?_eq_some_iff`,
`TypeName.ofText?_eq_some_iff`), up to the case of letters for mnemonics
(`Opcode.ofText?_eq_some_iff`).

Folding touches letters only (`toUpper_eq_iff`), which keeps the header apart from everything that
begins with a letter, and every keyword apart from what holds an `@`.
-/

namespace IppCode

/-! ### Folding

What folding does to single characters. All that is used later is that it leaves what is no letter
where it is. -/

namespace Text

/-- Only letters are folded: a character becomes one that is no letter only by being it. -/
theorem toUpper_eq_iff {c d : Char} (hd : d.isAlpha = false) : c.toUpper = d ↔ c = d := by
  have hlower : ∀ c : Char, c.isAlpha = false → ¬ c.isLower = true := by
    intro c hc hlower
    simp [Char.isAlpha, hlower] at hc
  constructor
  · rintro rfl
    rw [Char.isAlpha_toUpper_eq_isAlpha] at hd
    exact (Char.toUpper_eq_of_not_isLower (hlower c hd)).symm
  · rintro rfl
    exact Char.toUpper_eq_of_not_isLower (hlower c hd)

/-- A character that is no letter stands in both of two texts that agree up to case, or in
neither. -/
theorem mem_iff_of_sameIgnoringCase {a b : String} (h : sameIgnoringCase a b = true) {c : Char}
    (hc : c.isAlpha = false) : c ∈ a.toList ↔ c ∈ b.toList := by
  have hupper := congrArg String.toList (sameIgnoringCase_iff.1 h)
  rw [toList_upperCase, toList_upperCase] at hupper
  have hmap : ∀ cs : List Char, c ∈ cs.map Char.toUpper ↔ c ∈ cs := by
    intro cs
    rw [List.mem_map]
    exact ⟨fun ⟨d, hd, heq⟩ ↦ (toUpper_eq_iff hc).1 heq ▸ hd, fun hmem ↦
      ⟨c, hmem, (toUpper_eq_iff hc).2 rfl⟩⟩
  rw [← hmap, hupper, hmap]

/-- Texts that agree up to case begin alike, up to case. -/
theorem head?_of_sameIgnoringCase {a b : String} (h : sameIgnoringCase a b = true) {c : Char}
    (hc : c.isAlpha = false) : a.toList.head? = some c ↔ b.toList.head? = some c := by
  have hupper := congrArg String.toList (sameIgnoringCase_iff.1 h)
  rw [toList_upperCase, toList_upperCase] at hupper
  have hmap : ∀ cs : List Char, (cs.map Char.toUpper).head? = some c ↔ cs.head? = some c := by
    intro cs
    rcases cs with - | ⟨d, ds⟩
    · simp
    · simp [toUpper_eq_iff hc]
  rw [← hmap, hupper, hmap]

end Text

/-! ### Keywords

All keywords of all families in one list. That no two of their upper-case forms are equal is checked
on the list, and everything about different keywords comes from that. -/

theorem Frame.mem_all (frame : Frame) : frame ∈ all := by
  cases frame <;> decide

theorem TypeName.mem_all (type : TypeName) : type ∈ all := by
  cases type <;> decide

/-- A word with a meaning of its own. -/
inductive Keyword
  /-- The header is a keyword that stands for nothing else. -/
  | header
  /-- Each opcode has one, which may be written in any case, … -/
  | opcode (opcode : Opcode)
  /-- … and each frame and each name of a type has one, which may not. -/
  | frame (frame : Frame)
  | type (type : TypeName)
  deriving DecidableEq

namespace Keyword

def all : List Keyword :=
  header :: (Opcode.all.map opcode ++ Frame.all.map frame ++ TypeName.all.map type)

/-- The keyword as it is displayed. -/
def text : Keyword → String
  | header => headerText
  | opcode op => op.mnemonic
  | frame f => f.keyword
  | type t => t.keyword

theorem mem_all (k : Keyword) : k ∈ all := by
  cases k with
  | header => simp [all]
  | opcode op => simp [all, op.mem_all]
  | frame f => simp [all, f.mem_all]
  | type t => simp [all, t.mem_all]

/-- The one fact about the table: no upper-case form occurs in it twice. -/
theorem nodup_upperCase_texts : (all.map fun k ↦ Text.upperCase k.text).Nodup := by
  decide +kernel

/-- No two keywords are displayed alike, not even up to case. -/
theorem upperCase_text_injective : Function.Injective fun k : Keyword ↦ Text.upperCase k.text :=
  fun k k' h ↦ List.inj_on_of_nodup_map nodup_upperCase_texts k.mem_all k'.mem_all h

theorem text_injective : Function.Injective text := fun _ _ h ↦
  upperCase_text_injective (congrArg Text.upperCase h)

/-- A text agrees up to case with one keyword at most, of whatever family. -/
theorem eq_of_sameIgnoringCase {k k' : Keyword} {text : String}
    (h : Text.sameIgnoringCase k.text text = true)
    (h' : Text.sameIgnoringCase k'.text text = true) : k = k' := by
  rw [Text.sameIgnoringCase_iff] at h h'
  exact upperCase_text_injective (h.trans h'.symm)

/-- No keyword holds an `@`, in whatever case. -/
theorem not_mem_at {k : Keyword} {text : String}
    (h : Text.sameIgnoringCase k.text text = true) : '@' ∉ text.toList := by
  have hall : ∀ k ∈ all, '@' ∉ k.text.toList := by decide
  rw [← Text.mem_iff_of_sameIgnoringCase h (by decide)]
  exact hall k k.mem_all

end Keyword

theorem Frame.keyword_injective : Function.Injective keyword := fun a b h ↦
  Keyword.frame.inj (@Keyword.text_injective (.frame a) (.frame b) h)

theorem TypeName.keyword_injective : Function.Injective keyword := fun a b h ↦
  Keyword.type.inj (@Keyword.text_injective (.type a) (.type b) h)

theorem Opcode.mnemonic_injective : Function.Injective mnemonic := fun a b h ↦
  Keyword.opcode.inj (@Keyword.text_injective (.opcode a) (.opcode b) h)

/-! ### Searching a table

A search stops at the first member that fits. If at most one fits, it does not matter where in the
table that is. -/

/-- A search through all members of a family finds the one that fits, if at most one does. -/
theorem find?_eq_some_iff_of_unique {α : Type} {members : List α} {fits : α → Bool} {a : α}
    (hmem : a ∈ members)
    (hunique : ∀ b ∈ members, fits b = true → fits a = true → b = a) :
    members.find? fits = some a ↔ fits a = true := by
  constructor
  · exact fun h ↦ List.find?_some h
  · intro hfits
    rcases hfind : members.find? fits with - | b
    · exact absurd hfits (by simpa using List.find?_eq_none.1 hfind a hmem)
    · have hb := hunique b (List.mem_of_find?_eq_some hfind) (List.find?_some hfind) hfits
      exact congrArg some hb

/-- A search for an outcome finds it, if there is no other outcome anywhere in the list. -/
theorem findSome?_eq_some_of_unique {α β : Type} {members : List α} {outcome? : α → Option β}
    {a : α} {b : β} (hmem : a ∈ members) (ha : outcome? a = some b)
    (hunique : ∀ a' ∈ members, ∀ b', outcome? a' = some b' → b' = b) :
    members.findSome? outcome? = some b := by
  rcases hfind : members.findSome? outcome? with - | b'
  · have hnone := List.findSome?_eq_none_iff.1 hfind a hmem
    rw [ha] at hnone
    cases hnone
  · obtain ⟨a', hmem', ha'⟩ := List.exists_of_findSome?_eq_some hfind
    exact congrArg some (hunique a' hmem' b' ha')

/-- A search for a keyword finds the member of the family that it belongs to. -/
theorem find?_keyword_eq_some_iff {α : Type} {members : List α} {keyword : α → String}
    (hkeyword : Function.Injective keyword) {a : α} (hmem : a ∈ members) {text : String} :
    members.find? (fun b ↦ keyword b == text) = some a ↔ text = keyword a := by
  rw [find?_eq_some_iff_of_unique hmem, beq_iff_eq, eq_comm]
  intro b _ hb ha
  exact hkeyword ((beq_iff_eq.1 hb).trans (beq_iff_eq.1 ha).symm)

/-! ### Frames, type names and opcodes

The three families are searched in the same way, and differ in when a member fits. -/

/-- A text is a frame exactly when it is the frame's keyword. -/
theorem Frame.ofText?_eq_some_iff {text : String} {frame : Frame} :
    ofText? text = some frame ↔ text = frame.keyword :=
  find?_keyword_eq_some_iff keyword_injective frame.mem_all

/-- A text is the name of a type exactly when it is the type's keyword. -/
theorem TypeName.ofText?_eq_some_iff {text : String} {type : TypeName} :
    ofText? text = some type ↔ text = type.keyword :=
  find?_keyword_eq_some_iff keyword_injective type.mem_all

/-- Mnemonics are displayed in upper case. -/
theorem Opcode.upperCase_mnemonic (opcode : Opcode) :
    Text.upperCase opcode.mnemonic = opcode.mnemonic := by
  cases opcode <;> decide

/-- An opcode is found in every table that lists it, wherever it stands there. -/
theorem Opcode.find?_eq_some_iff {table : List Opcode} {text : String} {opcode : Opcode}
    (hmem : opcode ∈ table) :
    (table.find? fun other ↦ Text.sameIgnoringCase other.mnemonic text) = some opcode ↔
      Text.sameIgnoringCase opcode.mnemonic text = true := by
  rw [find?_eq_some_iff_of_unique hmem]
  intro other _ hother hopcode
  exact Keyword.opcode.inj
    (@Keyword.eq_of_sameIgnoringCase (.opcode other) (.opcode opcode) text hother hopcode)

/-- A text is an opcode exactly when it is the opcode's mnemonic up to case. -/
theorem Opcode.ofText?_eq_some_iff {text : String} {opcode : Opcode} :
    ofText? text = some opcode ↔ Text.sameIgnoringCase opcode.mnemonic text = true :=
  find?_eq_some_iff opcode.mem_all

/-- A text is a mnemonic up to case exactly when its upper-case form is the mnemonic. -/
theorem upperCase_eq_mnemonic_iff {text : String} {opcode : Opcode} :
    Text.upperCase text = opcode.mnemonic ↔
      Text.sameIgnoringCase opcode.mnemonic text = true := by
  rw [Text.sameIgnoringCase_iff, opcode.upperCase_mnemonic, eq_comm]

/-- No mnemonic holds an `@`, in whatever case. -/
theorem not_mem_at_of_mnemonic {word : String} {opcode : Opcode}
    (h : Text.sameIgnoringCase opcode.mnemonic word = true) : '@' ∉ word.toList :=
  @Keyword.not_mem_at (.opcode opcode) word h

/-! ### The header

The header begins with a dot, and nothing else with a meaning does. -/

/-- A text is the header up to case exactly when its upper-case form is that of the header, which is
not displayed in upper case itself. -/
theorem upperCase_eq_headerText_iff {text : String} :
    Text.upperCase text = ".IPPCODE23" ↔ Text.sameIgnoringCase text headerText = true := by
  have hheader : Text.upperCase headerText = ".IPPCODE23" := by decide
  rw [Text.sameIgnoringCase_iff, hheader]

/-- A header begins with a dot. -/
theorem head?_of_isHeader {word : String} (h : Text.sameIgnoringCase word headerText = true) :
    word.toList.head? = some '.' :=
  (Text.head?_of_sameIgnoringCase h (by decide)).2 (by decide)

/-- No mnemonic is a header, in whatever case. -/
theorem not_isHeader_of_mnemonic {word : String} {opcode : Opcode}
    (h : Text.sameIgnoringCase opcode.mnemonic word = true) :
    Text.sameIgnoringCase word headerText = false := by
  rw [Bool.eq_false_iff]
  intro hheader
  have hkeyword := @Keyword.eq_of_sameIgnoringCase .header (.opcode opcode) word
    (Text.sameIgnoringCase_symm hheader) h
  cases hkeyword

end IppCode
