/-!
# Ranges of code points

Classes of characters that the Unicode standard gives as data are lists of ranges here, both
ends included. `isAmong_iff` reads a list as a class.

A list need not be in order, and its ranges may meet: only membership counts. That a character is in
none of the ranges can be checked range by range (`isAmong_eq_false`), which for a whole interval of
characters is one pass over the list.
-/

namespace IppCode.Text

/-- The code points from `first` to `last`. -/
structure CodeRange where
  first : Nat
  last : Nat

/-- Whether the code point of a character is in one of the ranges. -/
def isAmong (ranges : List CodeRange) (c : Char) : Bool :=
  ranges.any fun range ↦ range.first ≤ c.toNat && c.toNat ≤ range.last

theorem isAmong_iff {ranges : List CodeRange} {c : Char} :
    isAmong ranges c = true ↔
      ∃ range ∈ ranges, range.first ≤ c.toNat ∧ c.toNat ≤ range.last := by
  simp [isAmong]

/-- A character that every range passes by is in none. -/
theorem isAmong_eq_false {ranges : List CodeRange} {c : Char}
    (h : ∀ range ∈ ranges, range.last < c.toNat ∨ c.toNat < range.first) :
    isAmong ranges c = false := by
  rw [Bool.eq_false_iff]
  intro among
  obtain ⟨range, mem, first_le, le_last⟩ := isAmong_iff.1 among
  rcases h range mem with last_lt | lt_first <;> omega

end IppCode.Text
