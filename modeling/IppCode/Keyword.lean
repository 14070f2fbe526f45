import IppCode.Opcode
import IppCode.Text.Ascii

/-!
# Keywords

Three families of words have a fixed meaning: mnemonics, frame names and type names. Mnemonics are
recognised in any case, the other two only as written. Each family has a recogniser into `Option`,
and `parse` variants that say what was expected instead.

A recogniser looks for the first member of the family that the text spells. Since no two members are
spelled alike, it does not matter which of them is tried first.
-/

namespace IppCode

/-- Where a variable lives: in the global, the local or the temporary frame. -/
inductive Frame
  | gf
  | lf
  | tf
  deriving DecidableEq

namespace Frame

def all : List Frame :=
  [gf, lf, tf]

/-- The frame as it is written in front of a variable's name. -/
def keyword : Frame → String
  | gf => "GF"
  | lf => "LF"
  | tf => "TF"

/-- The frame as log lines name it. -/
def title : Frame → String
  | gf => "Global"
  | lf => "Local"
  | tf => "Temporary"

def ofText? (text : String) : Option Frame :=
  all.find? fun frame ↦ frame.keyword == text

end Frame

/-- The types that an instruction can ask for by name. -/
inductive TypeName
  | int
  | bool
  | string
  deriving DecidableEq

namespace TypeName

/-- The names of types. Constants have one type more (`ConstantType`). -/
def all : List TypeName :=
  [int, bool, string]

def keyword : TypeName → String
  | int => "int"
  | bool => "bool"
  | string => "string"

/-- The type as log lines name it. -/
def title : TypeName → String
  | int => "Int"
  | bool => "Bool"
  | string => "String"

def ofText? (text : String) : Option TypeName :=
  all.find? fun type ↦ type.keyword == text

end TypeName

/-- The opcode whose mnemonic the text is, in whatever case. -/
def Opcode.ofText? (text : String) : Option Opcode :=
  all.find? fun opcode ↦ Text.sameIgnoringCase opcode.mnemonic text

/-- A family of keywords. -/
inductive KeywordFamily
  | opcode
  | frame
  | typeName
  deriving DecidableEq

/-- How the family is named in diagnostics. -/
def KeywordFamily.description : KeywordFamily → String
  | opcode => "opcode"
  | frame => "frame"
  | typeName => "type name"

/-- A text that is no keyword of the family where one was asked for. It keeps the text as it is. -/
structure UnknownKeyword where
  /-- What was asked for. -/
  expected : KeywordFamily
  /-- The text that is none. -/
  text : String
  deriving DecidableEq

def UnknownKeyword.message (unknown : UnknownKeyword) : String :=
  s!"'{unknown.text}' is not a valid {unknown.expected.description}"

/-- The keyword that a recogniser found, or the complaint that there is none. The three `parse`
functions are this, each with its own recogniser. -/
def KeywordFamily.require {α : Type} (family : KeywordFamily) (text : String) :
    Option α → Except UnknownKeyword α
  | some keyword => .ok keyword
  | none => .error ⟨family, text⟩

def Opcode.parse (text : String) : Except UnknownKeyword Opcode :=
  KeywordFamily.opcode.require text (ofText? text)

def Frame.parse (text : String) : Except UnknownKeyword Frame :=
  KeywordFamily.frame.require text (ofText? text)

def TypeName.parse (text : String) : Except UnknownKeyword TypeName :=
  KeywordFamily.typeName.require text (ofText? text)

end IppCode
