import IppCode.Text.Quoted

/-!
# Text for a terminal

Text from outside may hold characters that a terminal takes as commands. In a log message these
are spelled out: bell, backspace, form feed, escape and delete by two hexadecimal digits, and
the controls U+0080 to U+009F by their code point. Line breaks, tabs and the other controls
pass.
-/

namespace IppCode.Text

/-- A character of a log message. Those that would be taken as commands are spelled out, by their
code. -/
def terminalChar (c : Char) : String :=
  if c = '\x07' then "\\x07"
  else if c = '\x08' then "\\x08"
  else if c = '\x0c' then "\\x0c"
  else if c = '\x1b' then "\\x1b"
  else if c = '\x7f' then "\\x7f"
  else if 0x80 ≤ c.toNat ∧ c.toNat ≤ 0x9F then codePoint c
  else c.toString

/-- The text with the commands for a terminal spelled out. -/
def forTerminal (text : String) : String :=
  String.join (text.toList.map terminalChar)

end IppCode.Text
