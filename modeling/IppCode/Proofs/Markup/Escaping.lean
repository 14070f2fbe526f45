import IppCode.Document.Markup
import IppCode.Proofs.Markup.Reader
import Mathlib.Data.List.Basic

/-!
# Escaped texts

The texts that `Markup.escape` gives are those in which no `<` and no `>` stands and every `&`
begins one of three entities (`Markup.Escaped`). Escaping is undone in two ways: by decoding the
entities in one pass (`Markup.decode`), and by replacing one entity after the other in the whole
text (`Markup.unescape`). A reader of documents needs the first, which does not look at what stands
behind an entity; the second is how a text is usually unescaped by hand.

Three passes could go wrong where one cannot, since a pass might come upon an entity that an earlier
one has put together. None does, because `&` comes last: until then every `&` of the text is written
as an entity itself, so what looks like an entity is one. `Markup.written` is the text on its way,
with some characters still written as entities, and `Markup.replaceEach_written` is one pass. It is
stated once for all three: the characters that are still to come are a suffix of the list
`Markup.special`, and `&` is among them.

What the escaped texts are is shown by decoding: an escaped text is the escaped form of what it is
decoded to (`Markup.Escaped.flatMap_decode`). From there the rest follows, since the two ways of
undoing agree on escaped forms.
-/

namespace IppCode

/-! ### Replacing

Replacing goes on behind what it has replaced, so what is put in is never looked at. The recursion
is on the length of what is left, since a replacement takes more than one character off. -/

namespace Text

variable {α : Type} [DecidableEq α] {pattern replacement a rest : List α} {x first : α}

/-- The list with each occurrence of the pattern replaced, from left to right. The search goes on
behind what has been replaced. An empty pattern occurs nowhere. -/
def replaceEach (pattern replacement : List α) : List α → List α
  | [] => []
  | x :: xs =>
    if pattern ≠ [] ∧ pattern <+: x :: xs then
      replacement ++ replaceEach pattern replacement ((x :: xs).drop pattern.length)
    else x :: replaceEach pattern replacement xs
termination_by xs => xs.length
decreasing_by
  · have := List.length_pos_iff.2 ‹pattern ≠ [] ∧ _›.1
    simp only [List.length_drop, List.length_cons]
    omega
  · simp

/-- An occurrence is replaced. -/
theorem replaceEach_append_self (h : pattern ≠ []) :
    replaceEach pattern replacement (pattern ++ rest) =
      replacement ++ replaceEach pattern replacement rest := by
  obtain ⟨x, xs, rfl⟩ := List.exists_cons_of_ne_nil h
  have hpattern : x :: xs <+: x :: (xs ++ rest) := List.prefix_append (x :: xs) rest
  rw [List.cons_append, replaceEach, if_pos ⟨h, hpattern⟩, ← List.cons_append, List.drop_left]

/-- Where the pattern does not begin, an element stays. -/
theorem replaceEach_cons_of_not_prefix (h : ¬ pattern <+: x :: rest) :
    replaceEach pattern replacement (x :: rest) = x :: replaceEach pattern replacement rest := by
  rw [replaceEach, if_neg fun hpattern ↦ h hpattern.2]

/-- Nothing is replaced among elements that do not begin the pattern. -/
theorem replaceEach_append_of_not_mem (hfirst : pattern.head? = some first) (ha : first ∉ a) :
    replaceEach pattern replacement (a ++ rest) = a ++ replaceEach pattern replacement rest := by
  obtain ⟨more, rfl⟩ := List.head?_eq_some_iff.1 hfirst
  induction a with
  | nil => rfl
  | cons x a ih =>
    obtain ⟨hx, ha⟩ := not_or.1 (mt List.mem_cons.2 ha)
    rw [List.cons_append, replaceEach_cons_of_not_prefix, ih ha, List.cons_append]
    exact fun hpattern ↦ hx (List.cons_prefix_cons.1 hpattern).1

/-- The text with each occurrence of the pattern replaced. -/
def replaceAll (pattern replacement text : String) : String :=
  String.ofList (replaceEach pattern.toList replacement.toList text.toList)

end Text

namespace Markup

/-! ### Entities

All that is needed of the three entities is checked on the list of them: each begins with an `&`, is
the entity of one character, and none is the beginning of another. -/

/-- The characters that are written as entities, in the order in which they are turned back. -/
def special : List Char :=
  ['<', '>', '&']

theorem forall_special {p : Char → Prop} : (∀ c ∈ special, p c) ↔ p '<' ∧ p '>' ∧ p '&' := by
  simp only [special, List.forall_mem_cons, List.not_mem_nil, false_implies, implies_true, and_true]

theorem escapeChar_of_not_mem {c : Char} (h : c ∉ special) : (escapeChar c).toList = [c] := by
  simp only [special, List.mem_cons, List.not_mem_nil, or_false, not_or] at h
  rw [escapeChar, if_neg h.2.2, if_neg h.1, if_neg h.2.1]
  simp

/-- An entity begins with an `&` and holds no other, and no tag begins or ends within it. -/
theorem exists_entity : ∀ c ∈ special,
    ∃ name, (escapeChar c).toList = '&' :: name ∧ '&' ∉ name ∧ '<' ∉ name ∧ '>' ∉ name := by
  refine forall_special.2 ⟨?_, ?_, ?_⟩
  · exact ⟨"lt;".toList, rfl, by decide⟩
  · exact ⟨"gt;".toList, rfl, by decide⟩
  · exact ⟨"amp;".toList, rfl, by decide⟩

/-- Entities differ in the character behind the `&`. -/
theorem entity_not_prefix {c d : Char} (hc : c ∈ special) (hd : d ∈ special) (hne : d ≠ c)
    (rest : List Char) : ¬ (escapeChar d).toList <+: (escapeChar c).toList ++ rest := by
  have hbehind : ∀ c ∈ special, ∀ d ∈ special,
      (escapeChar d).toList[1]? = (escapeChar c).toList[1]? → d = c := by
    simp only [forall_special]
    decide
  have hlength : ∀ c ∈ special, 1 < (escapeChar c).toList.length := forall_special.2 (by decide)
  rintro ⟨more, heq⟩
  have hsame := congrArg (·[1]?) heq
  simp only [List.getElem?_append_left (hlength c hc),
    List.getElem?_append_left (hlength d hd)] at hsame
  exact hne (hbehind c hc d hd hsame)

/-! ### One pass

A pass turns back one entity everywhere. Where the text has an `&` of its own, the entity of that
stands, and the pass goes over it without taking its `&` for the beginning of another. -/

/-- The character, written as its entity if it is one of these. -/
def written (entities : List Char) (c : Char) : List Char :=
  if c ∈ entities then (escapeChar c).toList else [c]

/-- An escaped text is one with all special characters written as entities. -/
theorem toList_escape (text : String) :
    (escape text).toList = text.toList.flatMap (written special) := by
  have hchar : (fun c ↦ (escapeChar c).toList) = written special := by
    funext c
    by_cases hc : c ∈ special
    · rw [written, if_pos hc]
    · rw [written, if_neg hc, escapeChar_of_not_mem hc]
  rw [escape, String.toList_join, List.flatMap_map, hchar]

/-- One pass turns the entities of one character back into it, and nothing else, as long as each `&`
is written as an entity. -/
theorem replaceEach_written {d : Char} {entities : List Char} (hsuffix : d :: entities <:+ special)
    (hamp : '&' ∈ d :: entities) (hd : d ∉ entities) (text : List Char) :
    Text.replaceEach (escapeChar d).toList [d] (text.flatMap (written (d :: entities))) =
      text.flatMap (written entities) := by
  have hmem : d ∈ special := hsuffix.subset List.mem_cons_self
  obtain ⟨name, hname, -⟩ := exists_entity d hmem
  have hfirst : (escapeChar d).toList.head? = some '&' := by rw [hname, List.head?_cons]
  have hne : (escapeChar d).toList ≠ [] := by simp [hname]
  -- what has been written in front of a character does not matter for it, so the text is gone
  -- through from the left; there are three sorts of characters
  induction text with
  | nil => rw [List.flatMap_nil, Text.replaceEach, List.flatMap_nil]
  | cons c text ih =>
    rw [List.flatMap_cons, List.flatMap_cons, ← ih]
    by_cases hc : c ∈ d :: entities
    · rw [written, if_pos hc, written]
      by_cases hcd : c = d
      · subst c
        rw [if_neg hd, Text.replaceEach_append_self hne]
      · -- another entity is passed over: the pattern does not begin there, nor behind its `&`
        rw [if_pos ((List.mem_cons.1 hc).resolve_left hcd)]
        have hother := entity_not_prefix (hsuffix.subset hc) hmem (Ne.symm hcd)
          (text.flatMap (written (d :: entities)))
        obtain ⟨other, hcother, hamp', -⟩ := exists_entity c (hsuffix.subset hc)
        rw [hcother, List.cons_append] at hother ⊢
        rw [Text.replaceEach_cons_of_not_prefix hother,
          Text.replaceEach_append_of_not_mem hfirst hamp', List.cons_append]
    · have hamp' : '&' ∉ [c] := by
        rw [List.mem_singleton]
        rintro rfl
        exact hc hamp
      rw [written, if_neg hc, written, if_neg (mt (List.mem_cons_of_mem d) hc),
        Text.replaceEach_append_of_not_mem hfirst hamp']

/-- Undoes the escaping in three passes over the whole text, one for each entity. -/
def unescape (text : String) : String :=
  Text.replaceAll "&amp;" "&" (Text.replaceAll "&gt;" ">" (Text.replaceAll "&lt;" "<" text))

/-- Three passes turn back what was written, one character after the other. -/
theorem unescape_escape (text : String) : unescape (escape text) = text := by
  rw [← String.toList_inj]
  calc (unescape (escape text)).toList
    _ = Text.replaceEach (escapeChar '&').toList ['&']
          (Text.replaceEach (escapeChar '>').toList ['>']
            (Text.replaceEach (escapeChar '<').toList ['<']
              (text.toList.flatMap (written ['<', '>', '&'])))) := by
      rw [← special, ← toList_escape]
      simp only [unescape, Text.replaceAll, String.toList_ofList]
      rfl
    _ = Text.replaceEach (escapeChar '&').toList ['&']
          (Text.replaceEach (escapeChar '>').toList ['>']
            (text.toList.flatMap (written ['>', '&']))) := by
      rw [replaceEach_written ⟨[], rfl⟩ (by decide) (by decide)]
    _ = Text.replaceEach (escapeChar '&').toList ['&'] (text.toList.flatMap (written ['&'])) := by
      rw [replaceEach_written ⟨['<'], rfl⟩ (by decide) (by decide)]
    _ = text.toList.flatMap (written []) := by
      rw [replaceEach_written ⟨['<', '>'], rfl⟩ (by decide) (by decide)]
    _ = text.toList := by
      have hplain : written [] = fun c ↦ [c] := funext fun c ↦ if_neg List.not_mem_nil
      rw [hplain, List.flatMap_singleton']

/-- If `&` came first, its pass would put together an entity that the text does not have. -/
example : Text.replaceAll "&lt;" "<" (Text.replaceAll "&amp;" "&" (escape "&lt;")) = "<" := by
  cbv

/-! ### Decoding in one pass

The reader of documents takes the text apart at the front: an entity, or else a character that
stands for itself. -/

/-- A character other than `&` is decoded to itself. -/
theorem decode_cons {c : Char} (hc : c ≠ '&') (rest : List Char) :
    decode (c :: rest) = c :: decode rest := by
  rw [decode]
  all_goals
    intros
    exact absurd ‹c = '&'› hc

/-- What a character is escaped to is decoded to the character, whatever stands behind it. -/
theorem decode_escapeChar (c : Char) (rest : List Char) :
    decode ((escapeChar c).toList ++ rest) = c :: decode rest := by
  rw [escapeChar]
  split
  · subst c
    rfl
  split
  · subst c
    rfl
  split
  · subst c
    rfl
  · simpa using decode_cons ‹¬ c = '&'› rest

/-- An escaped text is decoded to the text. -/
theorem decode_escape (text : String) : decode (escape text).toList = text.toList := by
  have hcs : ∀ cs : List Char, decode ((cs.map escapeChar).flatMap String.toList) = cs := by
    intro cs
    induction cs with
    | nil => rfl
    | cons c cs ih => rw [List.map_cons, List.flatMap_cons, decode_escapeChar, ih]
  rw [escape, String.toList_join, hcs]

/-- A text without `&` is decoded to itself. -/
theorem decode_eq_self {cs : List Char} (h : '&' ∉ cs) : decode cs = cs := by
  induction cs with
  | nil => rfl
  | cons c cs ih =>
    obtain ⟨hc, hcs⟩ := by simpa using h
    rw [decode_cons (Ne.symm hc), ih hcs]

/-! ### Which texts are escaped

What is left of an escaped text behind an entity, or behind any other piece of it, is escaped as
well. So these texts can be taken apart by the cases of the decoder. -/

/-- No tag begins or ends in the text, and every `&` in it begins an entity. -/
structure Escaped (text : List Char) : Prop where
  /-- No tag begins … -/
  not_mem_lt : '<' ∉ text
  /-- … or ends. -/
  not_mem_gt : '>' ∉ text
  /-- An `&` is the first character of one of the three entities. -/
  entity : ∀ before after, text = before ++ '&' :: after →
    ∃ entity ∈ ["&amp;", "&lt;", "&gt;"], entity.toList <+: '&' :: after

/-- The rest of an escaped text is one. -/
theorem Escaped.of_append (piece : List Char) {more : List Char} (h : Escaped (piece ++ more)) :
    Escaped more where
  not_mem_lt hmem := h.not_mem_lt (List.mem_append_right piece hmem)
  not_mem_gt hmem := h.not_mem_gt (List.mem_append_right piece hmem)
  entity before after heq := h.entity (piece ++ before) after (by rw [heq, List.append_assoc])

/-- An `&` behind a piece without one stands in what follows the piece. -/
theorem exists_between {piece more before after : List Char} (hpiece : '&' ∉ piece)
    (h : piece ++ more = before ++ '&' :: after) :
    ∃ between, more = between ++ '&' :: after := by
  rcases List.append_eq_append_iff.1 h with ⟨between, -, hmore⟩ | ⟨_ | ⟨c, between⟩, rfl, hafter⟩
  · exact ⟨between, hmore⟩
  · exact ⟨[], hafter.symm⟩
  · obtain rfl := (List.cons.inj hafter).1
    simp at hpiece

/-- A character written in front leaves a text escaped. -/
theorem Escaped.written_append (c : Char) {more : List Char} (h : Escaped more) :
    Escaped (written special c ++ more) := by
  have hmem : ∀ {d : Char}, d ∉ written special c → d ∉ more → d ∉ written special c ++ more :=
    fun hpiece hmore hd ↦ (List.mem_append.1 hd).elim hpiece hmore
  by_cases hc : c ∈ special
  · obtain ⟨name, hname, hamp, hlt, hgt⟩ := exists_entity c hc
    have hpiece : written special c = '&' :: name := by rw [written, if_pos hc, hname]
    refine ⟨hmem ?_ h.not_mem_lt, hmem ?_ h.not_mem_gt, fun before after heq ↦ ?_⟩
    · simpa [hpiece] using hlt
    · simpa [hpiece] using hgt
    · rw [hpiece] at heq
      rcases before with - | ⟨d, before⟩
      · -- the `&` is that of the character's entity
        have hentity : ∀ c ∈ special, escapeChar c ∈ ["&amp;", "&lt;", "&gt;"] :=
          forall_special.2 (by decide)
        exact ⟨escapeChar c, hentity c hc, more, by rw [hname, heq, List.nil_append]⟩
      · obtain ⟨between, hmore⟩ := exists_between hamp (List.cons.inj heq).2
        exact h.entity between after hmore
  · have hpiece : written special c = [c] := if_neg hc
    have hne : ∀ d ∈ special, d ∉ written special c := by
      intro d hd hdc
      rw [hpiece, List.mem_singleton] at hdc
      exact hc (hdc ▸ hd)
    refine ⟨hmem (hne '<' (by decide)) h.not_mem_lt, hmem (hne '>' (by decide)) h.not_mem_gt,
      fun before after heq ↦ ?_⟩
    obtain ⟨between, hmore⟩ := exists_between (hne '&' (by decide)) heq
    exact h.entity between after hmore

/-- Escaping gives escaped texts. -/
theorem escaped_escape (text : String) : Escaped (escape text).toList := by
  rw [toList_escape]
  induction text.toList with
  | nil => exact ⟨List.not_mem_nil, List.not_mem_nil, by simp⟩
  | cons c cs ih =>
    rw [List.flatMap_cons]
    exact ih.written_append c

/-- An escaped text is decoded to one that it is the escaped form of. -/
theorem Escaped.flatMap_decode {text : List Char} (h : Escaped text) :
    (decode text).flatMap (written special) = text := by
  -- along the cases of the decoder: one for each entity, and one for a character that begins none
  fun_induction decode text with
  | case1 rest ih =>
    rw [List.flatMap_cons, ih (h.of_append "&amp;".toList)]
    rfl
  | case2 rest ih =>
    rw [List.flatMap_cons, ih (h.of_append "&lt;".toList)]
    rfl
  | case3 rest ih =>
    rw [List.flatMap_cons, ih (h.of_append "&gt;".toList)]
    rfl
  | case4 c rest hamp hlt hgt ih =>
    have hc : c ∉ special := by
      intro hc
      simp only [special, List.mem_cons, List.not_mem_nil, or_false] at hc
      rcases hc with rfl | rfl | rfl
      · exact h.not_mem_lt List.mem_cons_self
      · exact h.not_mem_gt List.mem_cons_self
      · -- the `&` begins an entity, which would have been decoded
        obtain ⟨entity, hentity, more, heq⟩ := h.entity [] rest rfl
        simp only [List.mem_cons, List.not_mem_nil, or_false] at hentity
        rcases hentity with rfl | rfl | rfl
        · exact hamp more rfl (List.cons.inj heq).2.symm
        · exact hlt more rfl (List.cons.inj heq).2.symm
        · exact hgt more rfl (List.cons.inj heq).2.symm
    rw [List.flatMap_cons, ih (h.of_append [c]), written, if_neg hc]
    rfl
  | case5 => rfl

/-- The escaped texts are those that escaping gives. -/
theorem exists_escape_iff {text : String} : (∃ t, escape t = text) ↔ Escaped text.toList := by
  constructor
  · rintro ⟨t, rfl⟩
    exact escaped_escape t
  · intro h
    refine ⟨String.ofList (decode text.toList), String.toList_inj.1 ?_⟩
    rw [toList_escape, String.toList_ofList, h.flatMap_decode]

/-- Writing a character takes one place at least. -/
theorem length_le_flatMap_written (text : List Char) :
    text.length ≤ (text.flatMap (written special)).length := by
  induction text with
  | nil => exact Nat.zero_le _
  | cons c text ih =>
    have hpos : 0 < (written special c).length := by
      rw [List.length_pos_iff, written]
      split
      · obtain ⟨name, hname, -⟩ := exists_entity c ‹c ∈ special›
        simp [hname]
      · exact List.cons_ne_nil c []
    rw [List.flatMap_cons, List.length_append, List.length_cons]
    omega

/-- Every entity makes the text longer. -/
theorem escape_eq_self_iff {text : String} :
    escape text = text ↔ ∀ c ∈ special, c ∉ text.toList := by
  rw [← String.toList_inj, toList_escape]
  constructor
  · intro h c hc hmem
    obtain ⟨before, after, hsplit⟩ := List.append_of_mem hmem
    have hentity : ∀ c ∈ special, 1 < (written special c).length := forall_special.2 (by decide)
    have hbefore := length_le_flatMap_written before
    have hafter := length_le_flatMap_written after
    have hlength := congrArg List.length h
    rw [hsplit, List.flatMap_append, List.flatMap_cons] at hlength
    simp only [List.length_append, List.length_cons] at hlength
    have := hentity c hc
    omega
  · intro h
    have hplain : ∀ c ∈ text.toList, written special c = [c] := fun c hmem ↦
      if_neg fun hc ↦ h c hc hmem
    rw [List.flatMap_congr hplain, List.flatMap_singleton']

/-- **Escaping is a code, and which texts it gives is known.** Three replacements in the whole text
undo it. It gives the texts in which no tag begins or ends and every `&` begins an entity, and these
are the texts that escaping gives back when they are unescaped first. It leaves a text as it is only
if there is nothing in it to escape. -/
theorem escape_code (text : String) :
    unescape (escape text) = text ∧
      ((∃ t, escape t = text) ↔ Escaped text.toList) ∧
      (escape (unescape text) = text ↔ Escaped text.toList) ∧
      (escape text = text ↔ '&' ∉ text.toList ∧ '<' ∉ text.toList ∧ '>' ∉ text.toList) := by
  refine ⟨unescape_escape text, exists_escape_iff, ⟨fun h ↦ ?_, fun h ↦ ?_⟩, ?_⟩
  · exact exists_escape_iff.1 ⟨_, h⟩
  · obtain ⟨t, rfl⟩ := exists_escape_iff.2 h
    rw [unescape_escape]
  · rw [escape_eq_self_iff, forall_special]
    exact and_rotate.symm

end Markup

end IppCode
