/-!
# UTF-8

Reading bytes as UTF-8 text, with a precise account of the first bytes that are no text.

Core decides validity (`String.fromUTF8?`); this module adds where the valid part ends
(`Utf8.validUpTo`) and what is wrong there (`Utf8.Fault`). A fault spans the *maximal*
beginning of a character that the bytes still allow: the lead byte and those continuation
bytes that some well-formed sequence with that lead byte has. `trailRanges` is the table of
well-formed byte sequences of the Unicode standard, one range per continuation byte.

Main statements: `decode` accepts the encoding of every text and gives that text back
(`decode_toByteArray`), and whatever it accepts is the encoding of its answer
(`toByteArray_of_decode`).
-/

namespace IppCode.Utf8

/-- Why bytes are not UTF-8, at the first place where they are not. -/
inductive Fault
  /-- The bytes from `index` on begin no character: the first `length` of them are the
  longest part that a character could begin with (or one byte, if there is none). -/
  | invalid (index length : Nat)
  /-- The input ends inside a character that begins at `index`. -/
  | incomplete (index : Nat)
  deriving DecidableEq

namespace Fault

/-- How many bytes before the fault are valid. -/
def index : Fault → Nat
  | invalid index _ => index
  | incomplete index => index

/-- The fault in words. It counts bytes, since there are no characters yet. -/
def message : Fault → String
  | invalid index length =>
    s!"invalid utf-8 sequence of {length} bytes from index {index}"
  | incomplete index => s!"incomplete utf-8 byte sequence from index {index}"

end Fault

/-- The bytes that may continue a character after the given lead byte, as inclusive ranges,
first the one that depends on the lead byte; none for a byte that leads no longer sequence. -/
def trailRanges (lead : UInt8) : List (UInt8 × UInt8) :=
  if 0xC2 ≤ lead ∧ lead ≤ 0xDF then [(0x80, 0xBF)]
  else if lead = 0xE0 then [(0xA0, 0xBF), (0x80, 0xBF)]
  else if lead = 0xED then [(0x80, 0x9F), (0x80, 0xBF)]
  else if 0xE1 ≤ lead ∧ lead ≤ 0xEF then [(0x80, 0xBF), (0x80, 0xBF)]
  else if lead = 0xF0 then [(0x90, 0xBF), (0x80, 0xBF), (0x80, 0xBF)]
  else if 0xF1 ≤ lead ∧ lead ≤ 0xF3 then [(0x80, 0xBF), (0x80, 0xBF), (0x80, 0xBF)]
  else if lead = 0xF4 then [(0x80, 0x8F), (0x80, 0xBF), (0x80, 0xBF)]
  else []

/-- How many of the bytes fall into the ranges, in step, before one does not; `none` if the bytes
run out first. What is behind the ranges is not looked at. -/
def matched? : List (UInt8 × UInt8) → List UInt8 → Option Nat
  | [], _ => some 0
  | _ :: _, [] => none
  | (low, high) :: ranges, byte :: bytes =>
    if low ≤ byte ∧ byte ≤ high then (matched? ranges bytes).map (· + 1) else some 0

/-- The fault at `index`, where the given bytes stand and begin no complete character. It is
incomplete only if all that is there could still become a character. -/
def faultAt (index : Nat) : List UInt8 → Fault
  | [] => .incomplete index
  | lead :: rest =>
    match matched? (trailRanges lead) rest with
    | some n => .invalid index (n + 1)
    | none => .incomplete index

/-- Where the run of complete characters that starts at `start` ends. It ends at a fault or at the
end of the bytes. -/
def validUpTo (bytes : ByteArray) (start : Nat) : Nat :=
  match _h : bytes.utf8DecodeChar? start with
  | some c => validUpTo bytes (start + c.utf8Size)
  | none => start
termination_by bytes.size - start
decreasing_by
  have := c.utf8Size_pos
  have := ByteArray.le_size_of_utf8DecodeChar?_eq_some _h
  omega

/-- The first fault of bytes that are not UTF-8. -/
def firstFault (bytes : ByteArray) : Fault :=
  let index := validUpTo bytes 0
  faultAt index (bytes.data.toList.drop index)

/-- The text that the bytes encode, or why they encode none. There is no replacing of faults: one of
them makes the whole input no text. -/
def decode (bytes : ByteArray) : Except Fault String :=
  match String.fromUTF8? bytes with
  | some text => .ok text
  | none => .error (firstFault bytes)

/-- Decoding gives back every text from its encoding. -/
@[simp]
theorem decode_toByteArray (text : String) : decode text.toByteArray = .ok text := by
  rw [decode, String.fromUTF8?, dif_pos text.isValidUTF8]
  rfl

/-- Only encodings are decoded. -/
theorem toByteArray_of_decode {bytes : ByteArray} {text : String}
    (h : decode bytes = .ok text) : text.toByteArray = bytes := by
  rw [decode, String.fromUTF8?] at h
  split at h
  · rename_i heq
    split at heq
    · cases heq
      cases h
      rfl
    · cases heq
  · cases h

end IppCode.Utf8
