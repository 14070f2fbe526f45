import IppCode.Operand

/-!
# Arguments

What a document keeps of an operand: the type of an argument and its text
(`Argument.ofOperand`). The text is ready to stand between tags, so three of its characters are
entities already (`Markup.escape`).

Each text is escaped exactly once, and only where it can contain the three: in the names of
variables and labels and in the bodies of strings. Numbers and keywords are plain words. Escaping
is not idempotent, since it escapes the `&` of an entity again, so nothing behind this module may
escape a text a second time.
-/

namespace IppCode

/-! ### Escaping -/

namespace Markup

/-- A character of text as it stands between tags. -/
def escapeChar (c : Char) : String :=
  if c = '&' then "&amp;"
  else if c = '<' then "&lt;"
  else if c = '>' then "&gt;"
  else c.toString

/-- Text as it stands between tags. -/
def escape (text : String) : String :=
  String.join (text.toList.map escapeChar)

end Markup

/-! ### Arguments -/

/-- What an argument can be. Constants have a type each, and the name of a type is an argument
of a type of its own. -/
inductive ArgumentType
  | var
  | int
  | bool
  | string
  | nil
  | label
  | type
  deriving DecidableEq

/-- The type as the `type` attribute names it. -/
def ArgumentType.keyword : ArgumentType → String
  | var => "var"
  | int => "int"
  | bool => "bool"
  | string => "string"
  | nil => "nil"
  | label => "label"
  | type => "type"

/-- An operand, ready to be written out: its text is escaped already. The frame of a variable is
part of its text, the type of a constant is not. -/
structure Argument where
  /-- What the `type` attribute says. -/
  kind : ArgumentType
  /-- What stands between the tags. -/
  text : String
  deriving DecidableEq

/-- The argument that an operand is written as. Only texts that can contain the three characters are
escaped. -/
def Argument.ofOperand : Operand → Argument
  | .var v => ⟨.var, Markup.escape v.text⟩
  | .label name => ⟨.label, Markup.escape name⟩
  | .type t => ⟨.type, t.keyword⟩
  | .constant (.string body) => ⟨.string, Markup.escape body⟩
  | .constant (.int digits) => ⟨.int, digits⟩
  | .constant (.bool value) => ⟨.bool, (Constant.bool value).body⟩
  | .constant .nil => ⟨.nil, Constant.nil.body⟩

end IppCode
