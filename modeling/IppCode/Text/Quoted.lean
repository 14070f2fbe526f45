import IppCode.Text.Invisible
import IppCode.Text.Joining

/-!
# Quoted text

How text is written inside a log line: between double quotes, with a backslash before a quote
or a backslash, with the short escapes of the usual control characters, and with the code
point in hexadecimal for every other character that a reader could not see or that would join
the character before it:

```
a "b" \   ⟶   "a \"b\" \\"
```

All else stands for itself. For ASCII this can be seen without the tables of Unicode, since none
of their ranges meets what can be printed (`quotedChar_of_printable`), so a text of such
characters is quoted as it is (`quoted_of_printable`).
-/

namespace IppCode.Text

/-- A character by its code point, in lower-case hexadecimal digits and without leading zeros. -/
def codePoint (c : Char) : String :=
  "\\u\x7b" ++ String.ofList (Nat.toDigits 16 c.toNat) ++ "\x7d"

/-- A character inside quotes of the kind `quote`. Only this kind of quote needs a backslash, the
other one stands for itself. -/
def quotedChar (quote : Char) (c : Char) : String :=
  if c = quote ∨ c = '\\' then "\\" ++ c.toString
  else if c.toNat = 0 then "\\0"
  else if c = '\t' then "\\t"
  else if c = '\r' then "\\r"
  else if c = '\n' then "\\n"
  else if isInvisible c || isJoining c then codePoint c
  else c.toString

/-- The text between double quotes. -/
def quoted (text : String) : String :=
  "\"" ++ String.join (text.toList.map (quotedChar '"')) ++ "\""

/-- The character between single quotes. -/
def quotedAlone (c : Char) : String :=
  "'" ++ quotedChar '\'' c ++ "'"

/-! ### Plain text -/

/-- Printable ASCII stands for itself, but for the quote and the backslash. The tables are not
searched here, since none of their ranges reaches into printable ASCII. -/
theorem quotedChar_of_printable {quote c : Char} (lower : 0x20 ≤ c.toNat)
    (upper : c.toNat ≤ 0x7E) (ne_quote : c ≠ quote) (ne_backslash : c ≠ '\\') :
    quotedChar quote c = c.toString := by
  have ne_of_lt {d : Char} (h : d.toNat < 0x20) : c ≠ d := by
    rintro rfl
    omega
  have invisible : isInvisible c = false := isInvisible_eq_false lower upper
  have joining : isJoining c = false := isJoining_eq_false (by omega)
  have ne_zero : c.toNat ≠ 0 := by omega
  simp [quotedChar, ne_quote, ne_backslash, ne_zero, invisible, joining,
    ne_of_lt (show '\t'.toNat < 0x20 by decide), ne_of_lt (show '\r'.toNat < 0x20 by decide),
    ne_of_lt (show '\n'.toNat < 0x20 by decide)]

/-- A text of printable ASCII is quoted as it is, if neither a quote nor a backslash is in it. -/
theorem quoted_of_printable {text : String}
    (printable : ∀ c ∈ text.toList, 0x20 ≤ c.toNat ∧ c.toNat ≤ 0x7E)
    (no_quote : '"' ∉ text.toList) (no_backslash : '\\' ∉ text.toList) :
    quoted text = "\"" ++ text ++ "\"" := by
  have chars : text.toList.map (quotedChar '"') = text.toList.map Char.toString :=
    List.map_congr_left fun c mem ↦
      quotedChar_of_printable (printable c mem).1 (printable c mem).2
        (fun eq ↦ no_quote (eq ▸ mem)) (fun eq ↦ no_backslash (eq ▸ mem))
  have join : String.join (text.toList.map Char.toString) = text := by
    rw [← String.toList_inj, String.toList_join, List.flatMap_map]
    simp
  rw [quoted, chars, join]

end IppCode.Text
