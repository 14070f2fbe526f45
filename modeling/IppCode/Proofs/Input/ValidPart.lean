import IppCode.Text.Utf8
import Mathlib.Data.List.Basic

/-!
# The valid part of bytes

Where bytes stop being UTF-8. `Utf8.validUpTo` goes on as long as a whole character stands ahead,
and so stops behind the longest text that the bytes begin with: what it has passed is the encoding
of a text, and any other text that the bytes begin with is a beginning of that text
(`Utf8.IsValidPart.prefix_of_append`).

Core's `ByteArray.utf8DecodeChar?` is opened by two facts only: behind the encoding of a character
it gives that character, and what it gives a character for begins with its encoding.

No encoding of a character is the beginning of another, and this is what makes going on character by
character the same as looking for the longest text. It also means that nothing has to be known of
the bytes behind the valid part but that no character stands there; they may be the beginning of
one, or what is left of one, or no part of any encoding.

Lines are counted over bytes. That this is the same as counting them over characters is a property
of the encoding: the byte of a newline stands in the encoding of no other character
(`Utf8.count_newline_utf8EncodeChar`).
-/

namespace IppCode.Utf8

/-! ### Characters ahead

All that is used of the decoder. The two facts are converses of each other. -/

/-- What stands before a place has no bearing on the character that stands there. -/
theorem utf8DecodeChar?_append_size (before bytes : ByteArray) :
    (before ++ bytes).utf8DecodeChar? before.size = bytes.utf8DecodeChar? 0 := by
  rw [ByteArray.utf8DecodeChar?_eq_utf8DecodeChar?_extract,
    ByteArray.extract_append_eq_right rfl ByteArray.size_append]

/-- A character stands ahead exactly where its encoding does. -/
theorem utf8DecodeChar?_zero_eq_some_iff {bytes : ByteArray} {c : Char} :
    bytes.utf8DecodeChar? 0 = some c ↔ ∃ rest, bytes = [c].utf8Encode ++ rest := by
  constructor
  · intro h
    obtain ⟨rest, hrest⟩ := ByteArray.exists_of_utf8DecodeChar?_eq_some h
    exact ⟨rest, by rw [hrest, List.utf8Encode_singleton]⟩
  · rintro ⟨rest, rfl⟩
    exact List.utf8DecodeChar?_utf8Encode_singleton_append

/-! ### The valid part

The valid part is told by how it ends: behind it no character is complete. A longer text would have
to have a character there. -/

/-- The bytes begin with the text, and no further character follows it. -/
structure IsValidPart (bytes : ByteArray) (text : List Char) (rest : ByteArray) : Prop where
  /-- The text is encoded in front. -/
  eq_append : bytes = text.utf8Encode ++ rest
  /-- Behind it no character is complete. -/
  ends : rest.utf8DecodeChar? 0 = none

/-- Every other text that the bytes begin with is a beginning of the valid part. -/
theorem IsValidPart.prefix_of_append {bytes rest more : ByteArray} {text other : List Char}
    (h : IsValidPart bytes text rest) (hother : bytes = other.utf8Encode ++ more) :
    other <+: text := by
  obtain ⟨rfl, hends⟩ := h
  induction other generalizing text with
  | nil => exact List.nil_prefix
  | cons c other ih =>
    rw [List.utf8Encode_cons, ByteArray.append_assoc] at hother
    rcases text with - | ⟨d, text⟩
    · rw [List.utf8Encode_nil, ByteArray.empty_append] at hother
      rw [utf8DecodeChar?_zero_eq_some_iff.2 ⟨_, hother⟩] at hends
      cases hends
    rw [List.utf8Encode_cons, ByteArray.append_assoc] at hother
    have hchar := congrArg (ByteArray.utf8DecodeChar? · 0) hother
    simp only [List.utf8DecodeChar?_utf8Encode_singleton_append, Option.some.injEq] at hchar
    subst hchar
    exact List.cons_prefix_cons.2 ⟨rfl, ih ((ByteArray.append_right_inj _).1 hother)⟩

/-- The run of complete characters ends behind the valid part. -/
theorem exists_isValidPart (before bytes : ByteArray) :
    ∃ text rest, IsValidPart bytes text rest ∧
      validUpTo (before ++ bytes) before.size = before.size + text.utf8Encode.size := by
  induction hn : bytes.size using Nat.strongRecOn generalizing before bytes with
  | ind n ih =>
    have hstep := utf8DecodeChar?_append_size before bytes
    rcases hchar : bytes.utf8DecodeChar? 0 with - | c
    · refine ⟨[], bytes, ⟨by rw [List.utf8Encode_nil, ByteArray.empty_append], hchar⟩, ?_⟩
      rw [validUpTo, hstep, hchar]
      rfl
    · obtain ⟨rest, rfl⟩ := utf8DecodeChar?_zero_eq_some_iff.1 hchar
      have hlength : [c].utf8Encode.size = c.utf8Size := by simp [List.utf8Encode_singleton]
      have hshorter : rest.size < n := by
        rw [← hn, ByteArray.size_append, hlength]
        have := c.utf8Size_pos
        omega
      obtain ⟨text, last, ⟨rfl, hends⟩, hvalid⟩ :=
        ih _ hshorter (before ++ [c].utf8Encode) rest rfl
      refine ⟨c :: text, last, ⟨?_, hends⟩, ?_⟩
      · rw [List.utf8Encode_cons (l := text), ByteArray.append_assoc]
      · rw [validUpTo, hstep, hchar]
        show validUpTo _ (before.size + c.utf8Size) = _
        rw [ByteArray.append_assoc, ByteArray.size_append, hlength] at hvalid
        rw [hvalid, List.utf8Encode_cons (l := text), ByteArray.size_append, hlength,
          Nat.add_assoc]

/-- A fault is at the end of the valid part. -/
theorem index_faultAt (index : Nat) (bytes : List UInt8) : (faultAt index bytes).index = index := by
  rcases bytes with - | ⟨lead, bytes⟩
  · rfl
  · rw [faultAt]
    split <;> rfl

/-- What encodes no text has a valid part, and its fault is at the end of it. -/
theorem exists_isValidPart_of_not_encoding {bytes : ByteArray}
    (h : ∀ text : String, text.toByteArray ≠ bytes) :
    ∃ fault text rest, decode bytes = .error fault ∧ IsValidPart bytes text rest ∧
      fault.index = text.utf8Encode.size := by
  obtain ⟨text, rest, hpart, hvalid⟩ := exists_isValidPart ByteArray.empty bytes
  rw [ByteArray.empty_append, ByteArray.size_empty, Nat.zero_add] at hvalid
  have hdecode : decode bytes = .error (firstFault bytes) := by
    rcases hdecode : decode bytes with fault | text
    · rw [decode] at hdecode
      split at hdecode
      · cases hdecode
      · exact hdecode.symm
    · exact absurd (toByteArray_of_decode hdecode) (h text)
  exact ⟨firstFault bytes, text, rest, hdecode, hpart, (index_faultAt _ _).trans hvalid⟩

/-! ### Line ends

Counting the byte of a newline over an encoding counts the newlines of the text, character by
character. -/

/-- A byte is a line end by its number. -/
theorem ofNat_eq_newline_iff {n : Nat} (h : n < 0x100) : UInt8.ofNat n = 0x0A ↔ n = 0x0A := by
  rw [← UInt8.toNat_inj, UInt8.toNat_ofNat', Nat.mod_eq_of_lt h]
  rfl

/-- A character is a line end exactly if its encoding holds the byte of one. -/
theorem count_newline_utf8EncodeChar (c : Char) :
    (String.utf8EncodeChar c).count 0x0A = [c].count '\n' := by
  have hnewline : c = '\n' ↔ c.val.toNat = 0x0A := by
    rw [← Char.toNat_inj]
    rfl
  rcases Nat.lt_or_ge 0x7F c.val.toNat with hlong | hshort
  · -- the bytes of a longer character carry a mark that puts them beyond ASCII
    have hbyte : ∀ n, 0x80 ≤ n → n < 0x100 → UInt8.ofNat n ≠ 0x0A := fun n hlow hhigh ↦
      mt (ofNat_eq_newline_iff hhigh).1 (by omega)
    have hnone : ∀ byte ∈ String.utf8EncodeChar c, byte ≠ 0x0A := by
      rw [String.utf8EncodeChar, if_neg (by omega)]
      split
      · simp only [List.forall_mem_cons]
        exact ⟨hbyte _ (by omega) (by omega), hbyte _ (by omega) (by omega),
          List.forall_mem_nil _⟩
      split
      · simp only [List.forall_mem_cons]
        exact ⟨hbyte _ (by omega) (by omega), hbyte _ (by omega) (by omega),
          hbyte _ (by omega) (by omega), List.forall_mem_nil _⟩
      · simp only [List.forall_mem_cons]
        exact ⟨hbyte _ (by omega) (by omega), hbyte _ (by omega) (by omega),
          hbyte _ (by omega) (by omega), hbyte _ (by omega) (by omega),
          List.forall_mem_nil _⟩
    have hne : c ≠ '\n' := fun heq ↦ by
      rw [hnewline] at heq
      omega
    rw [List.count_eq_zero.2 fun hmem ↦ hnone _ hmem rfl, List.count_singleton,
      if_neg (by simpa using hne)]
  · have hbyte := ofNat_eq_newline_iff (n := c.val.toNat) (by omega)
    rw [String.utf8EncodeChar, if_pos hshort, List.count_singleton, List.count_singleton]
    simp only [beq_iff_eq, hbyte, hnewline]

/-- The line ends of a text are those of its encoding. -/
theorem count_newline_utf8Encode (text : List Char) :
    text.utf8Encode.data.toList.count 0x0A = text.count '\n' := by
  induction text with
  | nil => rfl
  | cons c text ih =>
    have hchar : [c].utf8Encode.data.toList.count 0x0A = [c].count '\n' := by
      rw [List.utf8Encode_singleton, List.data_toByteArray]
      exact count_newline_utf8EncodeChar c
    show _ = ([c] ++ text).count '\n'
    rw [List.utf8Encode_cons (l := text), ByteArray.toList_data_append, List.count_append, hchar,
      ih, List.count_append]

end IppCode.Utf8
