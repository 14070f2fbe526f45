import IppCode.Document

/-!
# The XML form of a document

A document is written as one `program` element with an `instruction` element per instruction and an
`arg1`, `arg2`, … element per argument, indented with tabs. The texts of arguments are written as
they are: they are escaped since the arguments were made (`Argument.ofOperand`), and escaping them
here once more would change them.

Orders, opcodes and types stand in attributes and need no escaping, being numbers and words of ASCII
letters and digits. The name of the language stands in one as well; it is the same for all programs
(`Document.languageName`).
-/

namespace IppCode

namespace Argument

/-- The argument's element at the given position, counted from 1. -/
def render (position : Nat) (argument : Argument) : String :=
  s!"\t\t<arg{position} type=\"{argument.kind.keyword}\">{argument.text}</arg{position}>\n"

/-- The elements of consecutive arguments, the first at the given position. -/
def renderFrom (position : Nat) : List Argument → String
  | [] => ""
  | argument :: arguments => argument.render position ++ renderFrom (position + 1) arguments

end Argument

/-- The instruction's element, with its arguments numbered from 1. -/
def Instruction.render (instruction : Instruction) : String :=
  s!"\t<instruction order=\"{instruction.order}\" opcode=\"{instruction.opcode.mnemonic}\">\n"
    ++ Argument.renderFrom 1 instruction.arguments ++ "\t</instruction>\n"

/-- The document as XML text. -/
def Document.render (document : Document) : String :=
  "<?xml version=\"1.0\" encoding=\"UTF-8\"?>\n"
    ++ s!"<program language=\"{document.language}\">\n"
    ++ String.join (document.instructions.map Instruction.render) ++ "</program>\n"

end IppCode
