import IppCode.Parse
import IppCode.Proofs.Input.ValidPart
import IppCode.Proofs.Scan.Answers

/-!
# The spans of tokens

Where in the source a token was found, as the scanner reports it: its line and the offsets of its
bytes. The scanner counts both while it goes along. `Reported` says what they are for the source as
a whole: the bytes between the offsets are those of a word, and the line is counted over the bytes
in front of it.

The offset of a cursor is the length of the encoded text behind it (`Cursor.Placed`), and no step
loses this, blanks and comments in other alphabets included (`Cursor.Placed.next`). So the spans lie
behind one another, and each is not empty (`Scanner.Follows`).

Offsets are of bytes, and items are pieces of a text of characters. What connects the two is that
the encoding of a text is made of the encodings of its pieces, in order (`extract_utf8Encode`); that
a newline is a byte of its own, and no part of any other character, makes the lines the same over
bytes and over characters (`lineAt_utf8Encode_append`).

The items come in order and none is left out, but the last that is reported need not be the last
that the scanner has come to. A control character is an item as well, and it is not reported, since
it makes a failure. No run goes on behind a failure, and so all that is reported are words that come
first among the items (`Follows.exists_items`).
-/

namespace IppCode

/-! ### Texts and their bytes

The encoding of a text is made of the encodings of its pieces, so a piece of the text is a piece of
the bytes, at an offset that is the length of what is in front. -/

/-- The number of bytes is the size of the encoded text. -/
theorem utf8Length_eq_size (text : List Char) : utf8Length text = text.utf8Encode.size := by
  induction text with
  | nil => rfl
  | cons c text ih =>
    rw [utf8Length_cons, ih, List.utf8Encode_cons, ByteArray.size_append,
      List.utf8Encode_singleton]
    simp

theorem utf8Length_pos {text : List Char} (h : text ≠ []) : 0 < utf8Length text := by
  obtain ⟨c, cs, rfl⟩ := List.exists_cons_of_ne_nil h
  rw [utf8Length_cons]
  exact Nat.add_pos_left c.utf8Size_pos _

/-- The bytes of a piece of a text stand where the bytes of the text in front of it end. -/
theorem extract_utf8Encode (before text after : List Char) :
    (before ++ text ++ after).utf8Encode.extract (utf8Length before)
      (utf8Length (before ++ text)) = text.utf8Encode := by
  rw [utf8Length_append, utf8Length_eq_size, utf8Length_eq_size, List.append_assoc,
    List.utf8Encode_append, List.utf8Encode_append]
  exact (ByteArray.extract_append_size_add (i := 0)).trans
    (ByteArray.extract_append_eq_left rfl)

/-- Behind a text the line is counted over its line ends. -/
theorem lineAt_utf8Encode_append (text : List Char) (rest : ByteArray) :
    lineAt (text.utf8Encode ++ rest) (utf8Length text) = 1 + text.count '\n' := by
  have htake : (text.utf8Encode ++ rest).data.toList.take (utf8Length text) =
      text.utf8Encode.data.toList := by
    rw [utf8Length_eq_size, ByteArray.toList_data_append]
    exact List.take_left' Array.length_toList
  rw [lineAt, htake, Utf8.count_newline_utf8Encode]

/-- The last line is counted over all line ends. -/
theorem lineAt_utf8ByteSize (source : String) :
    lineAt source.toByteArray source.utf8ByteSize = 1 + source.toList.count '\n' := by
  have hline := lineAt_utf8Encode_append source.toList ByteArray.empty
  rwa [ByteArray.append_empty, utf8Length_eq_size, String.utf8Encode_toList,
    String.size_toByteArray] at hline

/-! ### What is reported of a token

What an event has to say about a token of the source, without mention of a scanner. -/

/-- The offsets of the bytes of the item: that of the first, and that behind the last. -/
def Item.span (item : Item) : Nat × Nat :=
  (utf8Length item.before, utf8Length (item.before ++ item.text))

theorem Item.span_le (item : Item) : item.span.1 ≤ item.span.2 := by
  rw [span, utf8Length_append]
  exact Nat.le_add_right _ _

/-- What is reported of a token of the source. -/
inductive Reported (source : String) : Token → Event → Prop
  /-- The bytes `start` to `stop` are those of the word that was taken for the token, and the line
  is counted over the bytes in front of it. -/
  | word {item : Item} {kind : TokenKind} {line start stop : Nat} (h : item.IsWord source.toList)
      (hkind : Classified (item.IsFirst source.toList) (String.ofList item.text) (.ok kind))
      (hitem : item.span = (start, stop))
      (hbytes : source.toByteArray.extract start stop = (String.ofList item.text).toByteArray)
      (hspan : start < stop ∧ stop ≤ source.utf8ByteSize)
      (hline : line = lineAt source.toByteArray start) :
    Reported source ⟨kind, line⟩ (.tokenFound line start stop kind)
  /-- The end is on the last line. -/
  | last {line : Nat} (hline : line = lineAt source.toByteArray source.utf8ByteSize) :
    Reported source ⟨.endOfStream, line⟩ (.endReached line)

/-- The offsets of the bytes that the event is about. -/
def Event.span? : Event → Option (Nat × Nat)
  | tokenFound _ start stop _ => some (start, stop)
  | _ => none

namespace Cursor

/-! ### The offset of a cursor

One more thing that no step loses. It is apart from the other fields of the invariant, since nothing
but the events depends on it. -/

/-- The cursor stands behind the text `before`, and its offset is the length of that. -/
structure Placed (source before : List Char) (cursor : Cursor) : Prop
    extends Behind source before cursor where
  /-- The offset counts the bytes behind the cursor. -/
  offset_eq : cursor.offset = utf8Length before

variable {source before : List Char} {cursor behind : Cursor} {located : Located}

theorem placed_start (source : String) : Placed source.toList [] (start source) :=
  ⟨behind_start source, rfl⟩

/-- What has been taken is added to the offset. -/
theorem Placed.offset_add (h : Placed source before cursor) (taken : List Char) :
    cursor.offset + utf8Length taken = utf8Length (before ++ taken) := by
  rw [utf8Length_append, h.offset_eq]

/-- The cursor comes to the next lexeme, which is the next item, and stops behind it. -/
theorem Placed.next (h : Placed source before cursor)
    (hnext : cursor.next = (some located, behind)) :
    ∃ item : Item, item.Matches source located ∧ item.span = (located.start, located.stop) ∧
      cursor.offset ≤ located.start ∧ Placed source (item.before ++ item.text) behind ∧
      ∀ items, ItemsBehind source (item.before ++ item.text) items →
        ItemsBehind source before (item :: items) := by
  -- what is passed over moves the offset as it moves the text behind the cursor; the induction ends
  -- with the lexeme that is delivered
  induction cursor using Cursor.induction generalizing before with
  | nil offset line first =>
    rw [next_nil] at hnext
    cases hnext
  | newline rest offset line first ih =>
    rw [next_newline] at hnext
    obtain ⟨item, hmatch, hspan, hle, hbehind, hitems⟩ :=
      ih ⟨h.newline, h.offset_add ['\n']⟩ hnext
    exact ⟨item, hmatch, hspan, Nat.le_of_succ_le hle, hbehind, fun items hlater ↦
      (hitems items hlater).skip fun item hitem ↦ h.newline_length_le hitem⟩
  | comment rest offset line first ih =>
    rw [next_comment] at hnext
    obtain ⟨item, hmatch, hspan, hle, hbehind, hitems⟩ :=
      ih ⟨h.skip_comment, h.offset_add _⟩ hnext
    exact ⟨item, hmatch, hspan, Nat.le_trans (Nat.le_add_right _ _) hle, hbehind,
      fun items hlater ↦
        (hitems items hlater).skip fun item hitem ↦ h.comment_length_le hitem⟩
  | blank c rest offset line first hc ih =>
    rw [next_blank hc] at hnext
    obtain ⟨item, hmatch, hspan, hle, hbehind, hitems⟩ :=
      ih ⟨h.skip_blank hc, h.offset_add _⟩ hnext
    exact ⟨item, hmatch, hspan, Nat.le_trans (Nat.le_add_right _ _) hle, hbehind,
      fun items hlater ↦ (hitems items hlater).skip fun item hitem ↦ h.blank_length_le hitem⟩
  | stray c rest offset line first hc ih =>
    rw [next_stray hc] at hnext
    cases hnext
    refine ⟨⟨before, [c]⟩, h.matches_stray hc, ?_, Nat.le_refl _,
      ⟨h.take_stray hc, h.offset_add [c]⟩, fun items hlater ↦ ?_⟩
    · exact Prod.ext h.offset_eq.symm (h.offset_add [c]).symm
    · exact hlater.cons ⟨before, [c]⟩ (.inl ⟨c, h.isControl hc⟩) (List.cons_ne_nil _ _)
        fun other hother ↦ h.stray_unique hc hother
  | word c rest offset line first hc ih =>
    rw [next_word hc] at hnext
    cases hnext
    refine ⟨⟨before, (c :: rest).takeWhile isWordChar⟩, h.matches_word hc, ?_, Nat.le_refl _,
      ⟨h.take_word hc, h.offset_add _⟩, fun items hlater ↦ ?_⟩
    · exact Prod.ext h.offset_eq.symm (h.offset_add _).symm
    · have hword := h.isWord hc
      exact hlater.cons ⟨before, (c :: rest).takeWhile isWordChar⟩ (.inr hword) hword.nonempty
        fun other hother ↦ h.word_unique hother

end Cursor

/-! ### What a scanner has reported

The events of words are in step with the items that the scanner has passed, as long as it has not
failed. Behind the end it reports nothing any more. -/

/-- A word is reported with the bytes between the text in front of it and the text behind it. -/
theorem Item.IsWord.reported {source : String} {item : Item} {kind : TokenKind}
    (h : item.IsWord source.toList)
    (hkind : Classified (item.IsFirst source.toList) (String.ofList item.text) (.ok kind)) :
    Reported source ⟨kind, item.line⟩ (.tokenFound item.line item.span.1 item.span.2 kind) := by
  obtain ⟨after, hsource, -⟩ := h.right
  have hbytes : source.toByteArray = (item.before ++ item.text ++ after).utf8Encode := by
    rw [← hsource, String.utf8Encode_toList]
  refine .word h hkind rfl ?_ ?_ ?_
  · rw [hbytes, span, extract_utf8Encode, String.toByteArray_ofList]
  · have hpos := utf8Length_pos h.nonempty
    rw [span, ← String.size_toByteArray, hbytes, ← utf8Length_eq_size,
      utf8Length_append (item.before ++ item.text), utf8Length_append]
    exact ⟨Nat.lt_add_of_pos_right hpos, Nat.le_add_right _ _⟩
  · rw [hbytes, List.append_assoc, List.utf8Encode_append, span, lineAt_utf8Encode_append,
      Item.line]

namespace Scanner

/-- The items that are reported are those that come first in the source, and no more than the
scanner has behind it. -/
structure Follows (source : String) (scanner : Scanner) (events : List Event) : Prop where
  /-- What was reported are the first items of the source, and a scanner that is not finished stands
  behind all of them. -/
  items : ∃ passed ahead, ItemsBehind source.toList [] (passed ++ ahead) ∧
    events.filterMap Event.span? = passed.map Item.span ∧
    (scanner.finished = false → ∃ before, scanner.cursor.Placed source.toList before ∧
      ItemsBehind source.toList before ahead ∧
      ∀ item ∈ passed, item.span.2 ≤ scanner.cursor.offset)
  /-- They stand one behind the other. -/
  spans : (events.filterMap Event.span?).Pairwise fun span later ↦ span.2 ≤ later.1

variable {source : String} {scanner : Scanner} {events : List Event} {event : Event}
  {token : Token} {failure : Failure}

theorem follows_ofSource (source : String) : (ofSource source).Follows source [] := by
  obtain ⟨items, hitems, -⟩ := (Cursor.behind_start source).exists_items
  exact ⟨⟨[], items, hitems, rfl, fun _ ↦ ⟨[], Cursor.placed_start source, hitems, by simp⟩⟩, .nil⟩

/-- What has been reported comes first among the items of the source. -/
theorem Follows.exists_items (h : scanner.Follows source events) :
    ∃ words later, ItemsBehind source.toList [] (words ++ later) ∧
      events.filterMap Event.span? = words.map Item.span := by
  obtain ⟨passed, ahead, hall, hevents, -⟩ := h.items
  exact ⟨passed, ahead, hall, hevents⟩

/-- What has no span can be reported anywhere. -/
theorem Follows.concat (h : scanner.Follows source events) (hspan : event.span? = none) :
    scanner.Follows source (events ++ [event]) := by
  have hsame : (events ++ [event]).filterMap Event.span? = events.filterMap Event.span? := by
    rw [List.filterMap_append, List.filterMap_cons_none hspan, List.filterMap_nil, List.append_nil]
  exact ⟨hsame ▸ h.items, hsame ▸ h.spans⟩

/-- A failure is not reported. -/
theorem event?_of_read_eq_error (h : scanner.read.result = .error failure) :
    scanner.read.event? = none := by
  rw [Scanner.read] at h ⊢
  split at h
  · cases h
  rename_i hopen
  rw [if_neg hopen]
  split at h
  · rw [readLexeme] at h ⊢
    split at h
    · cases h
    · rfl
  · cases h

/-- The end is reported on the last line. -/
theorem Follows.last {cursor behind : Cursor} (h : Follows source ⟨cursor, false⟩ events)
    (hnext : cursor.next = (none, behind)) :
    Reported source ⟨.endOfStream, behind.line⟩ (.endReached behind.line) ∧
      Follows source ⟨behind, true⟩ (events ++ [.endReached behind.line]) := by
  obtain ⟨passed, ahead, hall, hevents, hplace⟩ := h.items
  obtain ⟨before, hplaced, -⟩ := hplace rfl
  have hsource : source.toList = before ++ cursor.rest := hplaced.source_eq
  have hfinished : Follows source ⟨behind, true⟩ events :=
    ⟨⟨passed, ahead, hall, hevents, nofun⟩, h.spans⟩
  refine ⟨.last ?_, hfinished.concat rfl⟩
  rw [Cursor.line_of_next_eq_none hnext, Cursor.lastLine, hplaced.line_eq, lineAt_utf8ByteSize,
    hsource, List.count_append, Nat.add_assoc]

/-- A word is reported, and with it the next item is. -/
theorem Follows.word {cursor behind : Cursor} {located : Located}
    (h : Follows source ⟨cursor, false⟩ events) (hnext : cursor.next = (some located, behind))
    (hresult : located.result = .ok token) :
    Reported source token (.tokenFound located.line located.start located.stop token.kind) ∧
      Follows source ⟨behind, false⟩
        (events ++ [.tokenFound located.line located.start located.stop token.kind]) := by
  obtain ⟨passed, ahead, hall, hevents, hplace⟩ := h.items
  obtain ⟨before, hplaced, hahead, hbounded⟩ := hplace rfl
  obtain ⟨item, hmatch, hspan, hle, hbehind, hitems⟩ := hplaced.next hnext
  obtain ⟨later, hlater, -⟩ := hbehind.exists_items
  obtain rfl : ahead = item :: later := hahead.unique (hitems later hlater)
  have hspans : (events ++ [Event.tokenFound located.line located.start located.stop
      token.kind]).filterMap Event.span? = passed.map Item.span ++ [item.span] := by
    rw [List.filterMap_append, hevents, hspan]
    rfl
  have hstart : ∀ other ∈ passed, other.span.2 ≤ item.span.1 := fun other hother ↦ by
    rw [hspan]
    exact Nat.le_trans (hbounded other hother) hle
  refine ⟨?_, ⟨⟨passed ++ [item], later, ?_, ?_, fun _ ↦ ⟨_, hbehind, hlater, ?_⟩⟩, ?_⟩⟩
  · have hanswered := hmatch.answered
    rw [hresult] at hanswered
    cases hanswered with
    | token hword hkind =>
      have hreported := hword.reported hkind
      rw [hspan] at hreported
      rwa [hmatch.1]
  · rwa [List.append_assoc]
  · rw [hspans, List.map_append, List.map_singleton]
  · rw [List.forall_mem_append, List.forall_mem_singleton, hbehind.offset_eq]
    exact ⟨fun other hother ↦ Nat.le_trans (hstart other hother) item.span_le, Nat.le_refl _⟩
  · rw [hspans, ← hevents, List.pairwise_append]
    refine ⟨h.spans, List.pairwise_singleton _ _, fun span hmem later hlater ↦ ?_⟩
    rw [hevents] at hmem
    obtain ⟨other, hother, rfl⟩ := List.mem_map.1 hmem
    rw [List.mem_singleton.1 hlater]
    exact hstart other hother

/-- A token is reported once, with its place. -/
theorem Follows.read (h : scanner.Follows source events) (hopen : scanner.finished = false)
    (hread : scanner.read.result = .ok token) :
    ∃ event, scanner.read.event? = some event ∧ Reported source token event ∧
      scanner.read.after.Follows source (events ++ [event]) := by
  obtain ⟨cursor, finished⟩ := scanner
  obtain rfl : finished = false := hopen
  rcases hnext : cursor.next with ⟨- | located, behind⟩
  · rw [read_of_next_eq_none hnext] at hread ⊢
    obtain rfl := Except.ok.inj hread
    exact ⟨_, rfl, h.last hnext⟩
  · rw [read_of_next_eq_some hnext, readLexeme_result] at hread
    rw [read_of_next_eq_some hnext, readLexeme_after]
    refine ⟨_, ?_, h.word hnext hread⟩
    rw [readLexeme, (Located.result_eq_ok_iff.1 hread).1]

end Scanner

end IppCode
