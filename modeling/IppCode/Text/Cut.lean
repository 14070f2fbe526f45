/-!
# Cutting text

Three cuts: `cutAt?` takes a list apart at the first separator, `splitAt` at every one, and core's
`List.isPrefixOf?` behind a given beginning. Each is pinned down by putting the pieces together
again (`cutAt?_eq_some_iff`, `intercalate_splitAt`, `isPrefixOf?_eq_some_iff`).

They are about lists, since words are taken apart character by character: a variable at its first
`@`, a constant behind its tag, an option at its first `=`, a path at its slashes.
-/

namespace IppCode.Text

variable {α : Type} [DecidableEq α]

/-- What stands before and after the first `sep`, if there is one. The separator itself is in
neither. -/
def cutAt? (sep : α) : List α → Option (List α × List α)
  | [] => none
  | x :: xs => if x = sep then some ([], xs) else (cutAt? sep xs).map fun p ↦ (x :: p.1, p.2)

/-- The pieces between the separators, the empty ones included. There is one piece more than there
are separators, so never none. -/
def splitAt (sep : α) : List α → List (List α)
  | [] => [[]]
  | x :: xs =>
    if x = sep then [] :: splitAt sep xs
    else match splitAt sep xs with
      | [] => [[x]]
      | piece :: pieces => (x :: piece) :: pieces

@[simp]
theorem cutAt?_nil (sep : α) : cutAt? sep [] = none :=
  rfl

/-- A cut is found exactly at the first separator: it stands between the two parts, and not in the
first. -/
theorem cutAt?_eq_some_iff {sep : α} {xs before after : List α} :
    cutAt? sep xs = some (before, after) ↔ xs = before ++ sep :: after ∧ sep ∉ before := by
  induction xs generalizing before with
  | nil => simp
  | cons x xs ih =>
    rw [cutAt?]
    by_cases hx : x = sep
    · subst hx
      cases before with
      | nil => simp
      | cons y ys =>
        simp only [if_pos, Option.some.injEq, Prod.mk.injEq, reduceCtorEq, false_and,
          List.cons_append, List.cons.injEq, List.mem_cons, not_or, false_iff]
        rintro ⟨⟨rfl, -⟩, hne, -⟩
        exact hne rfl
    · rw [if_neg hx, Option.map_eq_some_iff]
      cases before with
      | nil =>
        simp only [Prod.mk.injEq, reduceCtorEq, false_and, and_false, exists_false,
          List.nil_append, List.cons.injEq, List.not_mem_nil, not_false_eq_true, and_true,
          false_iff, not_and]
        exact fun h ↦ absurd h hx
      | cons y ys =>
        constructor
        · rintro ⟨⟨b, a⟩, h, heq⟩
          obtain ⟨⟨rfl, rfl⟩, rfl⟩ := by simpa using heq
          obtain ⟨rfl, hmem⟩ := ih.1 h
          exact ⟨rfl, by simpa [hmem] using fun h ↦ hx h.symm⟩
        · rintro ⟨heq, hmem⟩
          obtain ⟨rfl, rfl⟩ := by simpa using heq
          exact ⟨(ys, after), ih.2 ⟨rfl, fun h ↦ hmem (List.mem_cons_of_mem _ h)⟩, rfl⟩

/-- What is left behind a beginning, if the list has that beginning. Core states the test, not what
is left. -/
theorem isPrefixOf?_eq_some_iff {beginning xs rest : List α} :
    beginning.isPrefixOf? xs = some rest ↔ xs = beginning ++ rest := by
  induction beginning generalizing xs with
  | nil => cases xs <;> exact ⟨fun h ↦ Option.some.inj h, fun h ↦ congrArg some h⟩
  | cons b bs ih =>
    cases xs with
    | nil =>
      show none = some rest ↔ _
      simp
    | cons x xs =>
      show (if b == x then bs.isPrefixOf? xs else none) = some rest ↔ _
      by_cases h : b = x
      · simp [h, ih]
      · simp [h, Ne.symm h]

/-- There is always a piece, be it an empty one. -/
theorem splitAt_ne_nil (sep : α) (xs : List α) : splitAt sep xs ≠ [] := by
  cases xs with
  | nil => simp [splitAt]
  | cons x xs =>
    rw [splitAt]
    split
    · simp
    · split <;> simp

/-- A piece ends at the first separator. -/
theorem splitAt_append_cons {sep : α} {piece : List α} (h : sep ∉ piece) (xs : List α) :
    splitAt sep (piece ++ sep :: xs) = piece :: splitAt sep xs := by
  induction piece with
  | nil => exact if_pos rfl
  | cons x piece ih =>
    obtain ⟨hx, hpiece⟩ := not_or.1 (mt List.mem_cons.2 h)
    rw [List.cons_append, splitAt, if_neg (Ne.symm hx), ih hpiece]

/-- Writing the separator between the pieces gives the list back. -/
theorem intercalate_splitAt (sep : α) (xs : List α) :
    List.intercalate [sep] (splitAt sep xs) = xs := by
  induction xs with
  | nil => rfl
  | cons x xs ih =>
    rw [splitAt]
    obtain ⟨piece, pieces, h⟩ := List.exists_cons_of_ne_nil (splitAt_ne_nil sep xs)
    rw [h] at ih ⊢
    split
    · subst x
      rw [← ih]
      simp [List.intercalate]
    · rw [← ih]
      cases pieces <;> simp [List.intercalate]

end IppCode.Text
