import IppCode.Opcode
import IppCode.Text.Cut

/-!
# Reading the XML form

A reader for the layout in which documents are written, made without regard to how they are: the
prolog, the `program` element with its language, in it the `instruction` elements with their number
and opcode, and in these the `argN` elements with their type. The text of an argument goes up to the
next `<`, and the three entities in it are decoded in one pass.

```
<?xml version="1.0" encoding="UTF-8"?>
<program language="IPPcode23">
	<instruction order="1" opcode="WRITE">
		<arg1 type="string">a&lt;b</arg1>
	</instruction>
</program>
```

The reader takes the first thing that fits and never goes back. Everything that it reads takes part
of the text with it (`length_of_readArgument`, `length_of_readInstruction`), so it ends.

It gives back elements, and no instructions: what it has read are texts and numbers, and whether
these are the operands of anything is not its business. An attribute goes up to the next quotation
mark, and there is no escape for one.
-/

namespace IppCode.Markup

/-! ### What is read -/

/-- An `argN` element: its `type` attribute and its decoded text. -/
structure ArgumentElement where
  /-- What the `type` attribute says, whether or not there is such a type. -/
  type : String
  /-- What stands between the tags, with its entities decoded. -/
  text : String
  deriving DecidableEq

/-- An `instruction` element: its number, its opcode and its arguments from the first on. -/
structure InstructionElement where
  /-- The number in the `order` attribute. -/
  order : Nat
  /-- The opcode that the `opcode` attribute names. -/
  opcode : Opcode
  /-- The `arg1`, `arg2`, … elements, in this order and without a gap. -/
  arguments : List ArgumentElement
  deriving DecidableEq

/-- The `program` element: its language and its instructions. -/
structure ProgramElement where
  /-- What the `language` attribute says. -/
  language : String
  /-- The elements of the instructions, in the order in which they stand. -/
  instructions : List InstructionElement
  deriving DecidableEq

/-! ### Texts

The reader works on lists of characters, and each of its parts says what it has read and what stands
behind that, or that there is nothing of the kind ahead. -/

/-- The text with its entities decoded, in one pass from left to right. -/
def decode : List Char → List Char
  | '&' :: 'a' :: 'm' :: 'p' :: ';' :: rest => '&' :: decode rest
  | '&' :: 'l' :: 't' :: ';' :: rest => '<' :: decode rest
  | '&' :: 'g' :: 't' :: ';' :: rest => '>' :: decode rest
  | c :: rest => c :: decode rest
  | [] => []

/-- What stands behind the literal, if the text begins with it. -/
def skipLiteral (literal : String) (cs : List Char) : Option (List Char) :=
  literal.toList.isPrefixOf? cs

/-- The number with the decimal digits. -/
def readNumber (digits : List Char) : Option Nat :=
  if digits ≠ [] ∧ digits.all Char.isDigit then some (Nat.ofDigitChars 10 digits 0) else none

theorem skipLiteral_eq_some_iff {literal : String} {cs rest : List Char} :
    skipLiteral literal cs = some rest ↔ cs = literal.toList ++ rest :=
  Text.isPrefixOf?_eq_some_iff

theorem skipLiteral_append (literal : String) (rest : List Char) :
    skipLiteral literal (literal.toList ++ rest) = some rest :=
  skipLiteral_eq_some_iff.2 rfl

/-- A text that differs from the literal at one place does not begin with it. -/
theorem skipLiteral_eq_none {literal : String} {cs : List Char} {i : Nat} {c d : Char}
    (hliteral : literal.toList[i]? = some c) (hcs : cs[i]? = some d) (hne : c ≠ d) :
    skipLiteral literal cs = none := by
  rw [Option.eq_none_iff_forall_ne_some]
  intro rest hskip
  have hlt : i < literal.toList.length := (List.getElem?_eq_some_iff.1 hliteral).1
  rw [skipLiteral_eq_some_iff.1 hskip, List.getElem?_append_left hlt, hliteral] at hcs
  exact hne (Option.some.inj hcs)

/-! ### Elements

An element without a fixed number of parts is read by a recursion that ends where the next part does
not fit. Each part that fits is at least one character long. -/

/-- The `argN` element in front, and what stands behind it. -/
def readArgument (position : Nat) (cs : List Char) : Option (ArgumentElement × List Char) := do
  let cs ← skipLiteral s!"\t\t<arg{position} type=\"" cs
  let (type, cs) ← Text.cutAt? '"' cs
  let cs ← skipLiteral ">" cs
  let (text, cs) ← Text.cutAt? '<' cs
  let cs ← skipLiteral s!"/arg{position}>\n" cs
  return (⟨String.ofList type, String.ofList (decode text)⟩, cs)

/-- An element of an argument takes text with it. -/
theorem length_of_readArgument {position : Nat} {cs rest : List Char} {argument : ArgumentElement}
    (h : readArgument position cs = some (argument, rest)) : rest.length < cs.length := by
  simp only [readArgument, Option.bind_eq_bind, Option.bind_eq_some_iff, skipLiteral_eq_some_iff,
    Prod.exists, Text.cutAt?_eq_some_iff] at h
  obtain ⟨cs, rfl, type, cs, ⟨rfl, -⟩, cs, rfl, text, cs, ⟨rfl, -⟩, cs, rfl, h⟩ := h
  obtain ⟨-, rfl⟩ := Prod.mk.inj (Option.some.inj h)
  simp only [List.length_append, List.length_cons]
  omega

/-- The arguments from the position on, up to the end of their instruction, and what stands
behind it. -/
def readArguments (position : Nat) (cs : List Char) : Option (List ArgumentElement × List Char) :=
  match skipLiteral "\t</instruction>\n" cs with
  | some rest => some ([], rest)
  | none =>
    match _h : readArgument position cs with
    | some (argument, rest) =>
      (readArguments (position + 1) rest).map fun read ↦ (argument :: read.1, read.2)
    | none => none
termination_by cs.length
decreasing_by exact length_of_readArgument _h

/-- So does the end of an instruction, with or without arguments in front of it. -/
theorem length_of_readArguments {position : Nat} {cs rest : List Char}
    {arguments : List ArgumentElement} (h : readArguments position cs = some (arguments, rest)) :
    rest.length < cs.length := by
  fun_induction readArguments position cs generalizing arguments with
  | case1 position cs rest' hskip =>
    obtain ⟨-, rfl⟩ := Prod.mk.inj (Option.some.inj h)
    have hlength := congrArg List.length (skipLiteral_eq_some_iff.1 hskip)
    simp only [List.length_append, String.length_toList] at hlength
    have hpos : 0 < "\t</instruction>\n".length := by decide
    omega
  | case2 position cs hskip argument rest' hread ih =>
    obtain ⟨⟨arguments', rest''⟩, hrest, heq⟩ := Option.map_eq_some_iff.1 h
    obtain ⟨-, rfl⟩ := Prod.mk.inj heq
    exact Nat.lt_trans (ih hrest) (length_of_readArgument hread)
  | case3 => cases h

theorem readArguments_nil (position : Nat) (rest : List Char) :
    readArguments position ("\t</instruction>\n".toList ++ rest) = some ([], rest) := by
  rw [readArguments, skipLiteral_append]

/-- An argument is read where the instruction does not end. -/
theorem readArguments_cons {position : Nat} {cs rest behind : List Char}
    {argument : ArgumentElement} {arguments : List ArgumentElement}
    (hend : skipLiteral "\t</instruction>\n" cs = none)
    (hread : readArgument position cs = some (argument, rest))
    (hrest : readArguments (position + 1) rest = some (arguments, behind)) :
    readArguments position cs = some (argument :: arguments, behind) := by
  rw [readArguments, hend]
  dsimp only
  split
  · rename_i h
    obtain ⟨rfl, rfl⟩ := Prod.mk.inj (Option.some.inj (hread.symm.trans h))
    rw [hrest]
    rfl
  · rename_i h
    rw [hread] at h
    cases h

/-- The `instruction` element in front, and what stands behind it. -/
def readInstruction (cs : List Char) : Option (InstructionElement × List Char) := do
  let cs ← skipLiteral "\t<instruction order=\"" cs
  let (digits, cs) ← Text.cutAt? '"' cs
  let order ← readNumber digits
  let cs ← skipLiteral " opcode=\"" cs
  let (mnemonic, cs) ← Text.cutAt? '"' cs
  let opcode ← Opcode.all.find? fun opcode ↦ opcode.mnemonic == String.ofList mnemonic
  let cs ← skipLiteral ">\n" cs
  let (arguments, cs) ← readArguments 1 cs
  return (⟨order, opcode, arguments⟩, cs)

/-- An element of an instruction takes text with it. -/
theorem length_of_readInstruction {cs rest : List Char} {instruction : InstructionElement}
    (h : readInstruction cs = some (instruction, rest)) : rest.length < cs.length := by
  simp only [readInstruction, Option.bind_eq_bind, Option.bind_eq_some_iff,
    skipLiteral_eq_some_iff, Prod.exists, Text.cutAt?_eq_some_iff] at h
  obtain ⟨cs, rfl, digits, cs, ⟨rfl, -⟩, order, -, cs, rfl, mnemonic, cs, ⟨rfl, -⟩, opcode, -, cs,
    rfl, arguments, cs', harguments, h⟩ := h
  obtain ⟨-, rfl⟩ := Prod.mk.inj (Option.some.inj h)
  have := length_of_readArguments harguments
  simp only [List.length_append, List.length_cons]
  omega

/-- The instructions up to the end of the program, behind which nothing stands. -/
def readInstructions (cs : List Char) : Option (List InstructionElement) :=
  match skipLiteral "</program>\n" cs with
  | some rest => if rest = [] then some [] else none
  | none =>
    match _h : readInstruction cs with
    | some (instruction, rest) => (readInstructions rest).map (instruction :: ·)
    | none => none
termination_by cs.length
decreasing_by exact length_of_readInstruction _h

theorem readInstructions_nil : readInstructions "</program>\n".toList = some [] := by
  have hskip := skipLiteral_append "</program>\n" []
  rw [List.append_nil] at hskip
  rw [readInstructions, hskip]
  rfl

/-- An instruction is read where the program does not end. -/
theorem readInstructions_cons {cs rest : List Char} {instruction : InstructionElement}
    {instructions : List InstructionElement} (hend : skipLiteral "</program>\n" cs = none)
    (hread : readInstruction cs = some (instruction, rest))
    (hrest : readInstructions rest = some instructions) :
    readInstructions cs = some (instruction :: instructions) := by
  rw [readInstructions, hend]
  dsimp only
  split
  · rename_i h
    obtain ⟨rfl, rfl⟩ := Prod.mk.inj (Option.some.inj (hread.symm.trans h))
    rw [hrest]
    rfl
  · rename_i h
    rw [hread] at h
    cases h

/-- The program that the text is the XML form of. -/
def readDocument (text : String) : Option ProgramElement := do
  let cs ← skipLiteral "<?xml version=\"1.0\" encoding=\"UTF-8\"?>\n" text.toList
  let cs ← skipLiteral "<program language=\"" cs
  let (language, cs) ← Text.cutAt? '"' cs
  let cs ← skipLiteral ">\n" cs
  let instructions ← readInstructions cs
  return ⟨String.ofList language, instructions⟩

end IppCode.Markup
