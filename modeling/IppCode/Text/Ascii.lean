/-!
# Case folding on ASCII

Keywords of the language are recognised without regard to the case of the letters `A` to `Z`.
No other character is folded: `Char.toUpper` moves `a` to `z` only, so a word that meets a
keyword under a wider case mapping stays a different word.

The main statement is `sameIgnoringCase_iff`: two texts agree up to case exactly when their
upper-case forms are one text.
-/

namespace IppCode.Text

/-- The text with its ASCII letters in upper case. It is as long as before, since every character is
taken by itself. -/
def upperCase (text : String) : String :=
  String.ofList (text.toList.map Char.toUpper)

/-- Equality up to the case of ASCII letters. It is an equivalence, as an equality of upper-case
forms. -/
def sameIgnoringCase (a b : String) : Bool :=
  upperCase a == upperCase b

@[simp]
theorem toList_upperCase (text : String) :
    (upperCase text).toList = text.toList.map Char.toUpper :=
  String.toList_ofList

theorem sameIgnoringCase_iff {a b : String} :
    sameIgnoringCase a b = true ↔ upperCase a = upperCase b :=
  beq_iff_eq

theorem sameIgnoringCase_refl (a : String) : sameIgnoringCase a a = true :=
  sameIgnoringCase_iff.2 rfl

theorem sameIgnoringCase_symm {a b : String} (h : sameIgnoringCase a b = true) :
    sameIgnoringCase b a = true :=
  sameIgnoringCase_iff.2 (sameIgnoringCase_iff.1 h).symm

end IppCode.Text
