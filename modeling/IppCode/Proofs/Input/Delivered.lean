import IppCode.Transfer.Delivery
import IppCode.Proofs.Scan.Spans

/-!
# What is parsed of a delivery

A reader delivers bytes in pieces, and may end with an error. What comes of it depends on the error
and, without one, on the bytes (`parse_delivery`): the error is reported, bytes that encode a text
are parsed as the text, and all others are a lexical failure, whatever is wrong with the text before
the fault.

The line of that failure is counted over bytes, and the lines of tokens are counted by the scanner.
The two agree: the failure is on the line on which a scan of the valid part ends
(`lineAt_of_isValidPart`), since the bytes of no other character look like a line end.
-/

namespace IppCode

/-- The end of the valid part is on the line on which its scan ends. On the left lines are counted
over bytes, and on the right over characters. -/
theorem lineAt_of_isValidPart {bytes rest : ByteArray} {text : List Char}
    (h : Utf8.IsValidPart bytes text rest) :
    lineAt bytes text.utf8Encode.size = (Cursor.start (String.ofList text)).lastLine := by
  rw [h.eq_append, ← utf8Length_eq_size, lineAt_utf8Encode_append, Cursor.lastLine, Cursor.start,
    String.toList_ofList]

/-- A scan ends on the last line. -/
theorem Scanner.exists_answer_end (source : String) :
    ∃ calls, ∀ n, calls ≤ n →
      (ofSource source).answer n = .ok ⟨.endOfStream, (Cursor.start source).lastLine⟩ := by
  refine ⟨(Cursor.start source).items.length, fun n hn ↦ ?_⟩
  rw [ofSource, answer_eq, List.getElem?_eq_none (by rwa [List.length_map])]
  rfl

/-- The message of a fault ends with its place. -/
theorem Utf8.Fault.message_eq (fault : Utf8.Fault) :
    fault.message = s!"incomplete utf-8 byte sequence from index {fault.index}" ∨
      ∃ length : Nat, fault.message =
        s!"invalid utf-8 sequence of {length} bytes from index {fault.index}" := by
  rcases fault with ⟨index, length⟩ | index
  · exact .inr ⟨length, rfl⟩
  · exact .inl rfl

/-- **What is parsed of a delivery depends on its bytes and its error**, and not on the pieces.
Bytes that encode no text fail behind the longest text that they begin with, on the line on which
the scan of that text ends. -/
theorem parse_delivery (delivery : Delivery) (target : Target) :
    (∀ error, delivery.error? = some error →
      (parseInput delivery.readToEnd target).result = .error (.transfer .read target error)) ∧
    (delivery.error? = none → ∀ source : String,
      source.toByteArray = Delivery.join delivery.pieces →
        (parseInput delivery.readToEnd target).result = (parseSource source).result) ∧
    (delivery.error? = none →
      (∀ source : String, source.toByteArray ≠ Delivery.join delivery.pieces) →
        ∃ (valid : String) (rest : ByteArray) (line : Nat) (fault : Utf8.Fault),
          Delivery.join delivery.pieces = valid.toByteArray ++ rest ∧
          (∀ (other : String) (more : ByteArray),
            Delivery.join delivery.pieces = other.toByteArray ++ more →
              ∃ later, valid = other ++ later) ∧
          (parseInput delivery.readToEnd target).result =
            .error (.lexical line (.notUtf8 fault)) ∧
          (Failure.lexical line (.notUtf8 fault)).message =
            s!"line {line}: lexical error: " ++ s!"input is not valid UTF-8: {fault.message}" ∧
          (fault.message =
              s!"incomplete utf-8 byte sequence from index {valid.utf8ByteSize}" ∨
            ∃ length : Nat, fault.message =
              s!"invalid utf-8 sequence of {length} bytes from index {valid.utf8ByteSize}") ∧
          ∃ calls, ∀ n, calls ≤ n →
            (Scanner.ofSource valid).answer n = .ok ⟨.endOfStream, line⟩) := by
  refine ⟨fun error herror ↦ ?_, fun hnone source hsource ↦ ?_, fun hnone hinvalid ↦ ?_⟩
  · rw [Delivery.readToEnd, herror, parseInput]
  · rw [Delivery.readToEnd, hnone, parseInput, parseBytes, ← hsource, Utf8.decode_toByteArray]
    rfl
  · obtain ⟨fault, text, rest, hdecode, hpart, hindex⟩ :=
      Utf8.exists_isValidPart_of_not_encoding hinvalid
    have hbytes : (String.ofList text).toByteArray = text.utf8Encode := String.toByteArray_ofList
    have hsize : fault.index = (String.ofList text).utf8ByteSize := by
      rw [hindex, ← hbytes, String.size_toByteArray]
    refine ⟨String.ofList text, rest, (Cursor.start (String.ofList text)).lastLine, fault, ?_, ?_,
      ?_, rfl, hsize ▸ fault.message_eq, Scanner.exists_answer_end _⟩
    · rw [hbytes]
      exact hpart.eq_append
    · intro other more hother
      rw [← String.utf8Encode_toList] at hother
      obtain ⟨later, rfl⟩ := hpart.prefix_of_append hother
      exact ⟨String.ofList later, by rw [String.ofList_append, String.ofList_toList]⟩
    · have hline := lineAt_of_isValidPart hpart
      rw [← hindex] at hline
      rw [Delivery.readToEnd, hnone, parseInput, parseBytes, hdecode, ← hline]
      rfl

end IppCode
