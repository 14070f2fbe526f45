import IppCode.Keyword
import IppCode.Text.Cut

/-!
# Operands

Identifiers, variables, constants, and the operands of an instruction.

A `Variable` carries the proof that its name is an identifier, so every value of the type is one
that a program can contain. Constants and labels are kept as they were written; what
`Constant.parse` accepts is the well-formed ones among them. It takes the first constant type whose
tag the lexeme begins with; `ConstantType.body?_eq_some_iff` says when it does. All tags end with
the `@`, so a lexeme begins with at most one of them.

Nothing is normalised: `int@+007` is kept with its sign and its zeros, and a string with its escape
sequences. What an operand says can therefore be read off its text again.
-/

namespace IppCode

/-! ### Identifiers -/

/-- The characters an identifier may begin with. -/
def isNameStart (c : Char) : Bool :=
  c.isAlpha || ['_', '-', '$', '&', '%', '*', '!', '?'].contains c

/-- The characters an identifier may go on with: digits as well. -/
def isNameChar (c : Char) : Bool :=
  isNameStart c || c.isDigit

/-- The names of variables and labels. Both are judged by the same rule. -/
def isIdentifier (name : String) : Bool :=
  match name.toList with
  | [] => false
  | c :: cs => isNameStart c && cs.all isNameChar

/-! ### Variables -/

/-- A variable: a frame, and a name in it. -/
@[ext]
structure Variable where
  /-- The frame in front of the `@`. -/
  frame : Frame
  /-- The name behind the `@`. -/
  name : String
  /-- The name is one. -/
  name_isIdentifier : isIdentifier name = true
  deriving DecidableEq

/-- The frame that stands before the first `@`, and the text behind it. There may be more of them in
that text. -/
def splitFrame? (text : String) : Option (Frame × String) := do
  let (before, after) ← Text.cutAt? '@' text.toList
  let frame ← Frame.ofText? (String.ofList before)
  return (frame, String.ofList after)

namespace Variable

/-- The variable as it is written in a program. -/
def text (v : Variable) : String :=
  v.frame.keyword ++ "@" ++ v.name

/-- The variable that a text spells, if it spells one. -/
def ofText? (text : String) : Option Variable := do
  let (frame, name) ← splitFrame? text
  if h : isIdentifier name = true then some ⟨frame, name, h⟩ else none

end Variable

/-! ### Constants -/

/-- The types of constants. -/
inductive ConstantType
  | int
  | string
  | bool
  | nil
  deriving DecidableEq

/-- A constant. The digits of a number and the body of a string are kept as written, with
their sign and their escape sequences. -/
inductive Constant
  | int (digits : String)
  | bool (value : Bool)
  | string (body : String)
  | nil
  deriving DecidableEq

/-- Why a lexeme is no constant. -/
inductive ConstantFault
  /-- Behind `int@` there is no decimal number. -/
  | notInteger (body : String)
  /-- Behind `string@` a backslash stands without its three digits. -/
  | brokenEscape (body : String)
  /-- Behind `bool@` there is neither `true` nor `false`. -/
  | notBoolean (body : String)
  /-- Behind `nil@` there is something else than `nil`. -/
  | notNil (body : String)
  /-- The lexeme begins with no tag of a type. -/
  | untyped (lexeme : String)
  deriving DecidableEq

/-- The cause in words. -/
def ConstantFault.message : ConstantFault → String
  | notInteger body => s!"'{body}' is not a decimal integer"
  | brokenEscape body =>
    s!"in string constant '{body}', each backslash must start a three-digit escape sequence"
  | notBoolean body => s!"'{body}' is not a boolean (true or false)"
  | notNil body => s!"the only nil constant is nil@nil, not nil@{body}"
  | untyped lexeme => s!"'{lexeme}' is neither a variable nor a constant"

/-- One or more decimal digits. -/
def isDigits (cs : List Char) : Bool :=
  !cs.isEmpty && cs.all Char.isDigit

/-- Decimal digits with at most one sign in front. -/
def isDecimalInteger (cs : List Char) : Bool :=
  match cs with
  | '+' :: digits => isDigits digits
  | '-' :: digits => isDigits digits
  | digits => isDigits digits

/-- Every backslash is followed by three decimal digits. The digits are passed over with it, and
more digits may follow, as plain characters. -/
def isEscaped : List Char → Bool
  | [] => true
  | '\\' :: a :: b :: c :: rest => a.isDigit && b.isDigit && c.isDigit && isEscaped rest
  | '\\' :: _ => false
  | _ :: rest => isEscaped rest

namespace ConstantType

/-- The constant types in the order in which they are tried. No two of their tags begin the same
lexeme, so the order decides nothing. -/
def all : List ConstantType :=
  [int, string, bool, nil]

def keyword : ConstantType → String
  | int => "int"
  | string => "string"
  | bool => "bool"
  | nil => "nil"

/-- The text of a lexeme behind the type and its `@`, if that is how the lexeme begins. There may be
another `@` in it. -/
def body? (type : ConstantType) (lexeme : String) : Option String :=
  ((type.keyword ++ "@").toList.isPrefixOf? lexeme.toList).map String.ofList

/-- The constant of the given type with the given body. Each type has its own test, and its own
complaint. -/
def read (type : ConstantType) (body : String) : Except ConstantFault Constant :=
  match type with
  | int => if isDecimalInteger body.toList then .ok (.int body) else .error (.notInteger body)
  | string => if isEscaped body.toList then .ok (.string body) else .error (.brokenEscape body)
  | bool =>
    if body = "true" then .ok (.bool true)
    else if body = "false" then .ok (.bool false)
    else .error (.notBoolean body)
  | nil => if body = "nil" then .ok .nil else .error (.notNil body)

end ConstantType

namespace Constant

/-- Reads a lexeme as a constant of the first of the given types whose tag it begins with. Another
type is not tried if the body does not fit. -/
def parseAs (types : List ConstantType) (lexeme : String) : Except ConstantFault Constant :=
  match types.findSome? fun type ↦ (type.body? lexeme).map type.read with
  | some result => result
  | none => .error (.untyped lexeme)

/-- Reads a lexeme as a constant. -/
def parse (lexeme : String) : Except ConstantFault Constant :=
  parseAs ConstantType.all lexeme

def type : Constant → ConstantType
  | int _ => .int
  | bool _ => .bool
  | string _ => .string
  | nil => .nil

/-- What stands behind the `@` of the constant. -/
def body : Constant → String
  | int digits => digits
  | bool true => "true"
  | bool false => "false"
  | string body => body
  | nil => "nil"

/-- The constant as it is written in a program. -/
def text (constant : Constant) : String :=
  constant.type.keyword ++ "@" ++ constant.body

end Constant

/-! ### Operands -/

/-- An operand of an instruction. -/
inductive Operand
  | var (v : Variable)
  /-- A constant that is well-formed, as far as it was made by `Constant.parse`. -/
  | constant (c : Constant)
  /-- A label by its name. The name of a type can be one. -/
  | label (name : String)
  | type (type : TypeName)
  deriving DecidableEq

/-- The operand as it is written in a program. -/
def Operand.text : Operand → String
  | var v => v.text
  | constant c => c.text
  | label name => name
  | type t => t.keyword

/-! ### The tags of constants -/

namespace ConstantType

theorem body?_eq_some_iff {type : ConstantType} {lexeme body : String} :
    type.body? lexeme = some body ↔ lexeme = type.keyword ++ "@" ++ body := by
  rw [body?, Option.map_eq_some_iff]
  constructor
  · rintro ⟨rest, h, rfl⟩
    rw [← String.toList_inj, Text.isPrefixOf?_eq_some_iff.1 h]
    simp
  · rintro rfl
    exact ⟨body.toList, Text.isPrefixOf?_eq_some_iff.2 (by simp), String.ofList_toList⟩

end ConstantType

end IppCode
