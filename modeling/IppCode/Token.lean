import IppCode.Failure
import IppCode.Lexeme

/-!
# Tokens

What a word of the source is taken for. This depends on its text and on whether it is the first word
of its line, and on nothing else (`TokenKind.ofWord`). Mnemonics are recognised only at the
beginning of a line; elsewhere they are labels.

Labels and constants are checked no further here. Names of variables are, save at the beginning of a
line, where no variable belongs and the missing opcode is the better complaint.

The tests are made in order: header, mnemonic, word with an `@`, name of a type, and all other words
are labels. No two of the first four ever apply to the same word, so the order of the tests decides
nothing.
-/

namespace IppCode

/-- What a token can be. Opcodes, frames and types are resolved; texts that are kept are kept as
written. -/
inductive TokenKind
  /-- The header, in whatever case. -/
  | header
  /-- A mnemonic at the beginning of a line. -/
  | opcode (opcode : Opcode)
  /-- A variable. Its name is known to be one. -/
  | var (v : Variable)
  /-- A word with an `@` and no frame before it; it may turn out to be no constant. -/
  | constant (lexeme : String)
  /-- Any other word; it may turn out to be no label. -/
  | label (lexeme : String)
  /-- The name of a type. It can serve as a label. -/
  | type (type : TypeName)
  /-- What every source ends with. -/
  | endOfStream
  deriving DecidableEq

namespace TokenKind

/-- The token as diagnostics quote it: a mnemonic or the header in its own case, and else as
written. -/
def text : TokenKind → String
  | header => headerText
  | opcode op => op.mnemonic
  | var v => v.text
  | constant lexeme => lexeme
  | label lexeme => lexeme
  | type t => t.keyword
  | endOfStream => "end of input"

/-- The token as log lines show it. -/
def logForm : TokenKind → String
  | header => "Header"
  | opcode op => s!"Opcode({op.title})"
  | var v =>
    s!"Variable(Variable \x7b frame: {v.frame.title}, name: " ++ Text.quoted v.name ++ " \x7d)"
  | constant lexeme => "Constant(" ++ Text.quoted lexeme ++ ")"
  | label lexeme => "Label(" ++ Text.quoted lexeme ++ ")"
  | type t => s!"TypeName({t.title})"
  | endOfStream => "EndOfStream"

/-- The opcode that a word stands for, which it does only as the first word of its line. -/
def leadingOpcode? (word : String) (first : Bool) : Option Opcode :=
  if first then Opcode.ofText? word else none

/-- What a word with an `@` is taken for: a variable if a frame stands before the `@`, else a
constant. -/
def ofTagged (word : String) (first : Bool) : Except LexicalFault TokenKind :=
  match splitFrame? word with
  | some (frame, name) =>
    if h : isIdentifier name = true then .ok (var ⟨frame, name, h⟩)
    else if first then .ok (label word)
    else .error (.invalidName name word)
  | none => .ok (constant word)

/-- What a word is taken for. A word fails only if it begins with a frame and `@`, goes on with no
name, and is not the first of its line. -/
def ofWord (word : String) (first : Bool) : Except LexicalFault TokenKind :=
  if Text.sameIgnoringCase word headerText then .ok header
  else match leadingOpcode? word first with
    | some op => .ok (opcode op)
    | none =>
      if '@' ∈ word.toList then ofTagged word first
      else match TypeName.ofText? word with
        | some t => .ok (type t)
        | none => .ok (label word)

/-- What a lexeme is taken for. -/
def ofLexeme : Lexeme → Except LexicalFault TokenKind
  | .word text first => ofWord text first
  | .stray c => .error (.invalidCharacter c)

end TokenKind

/-- A token on its line. The end of the stream is on the last line of the source. -/
structure Token where
  /-- What it was taken for. -/
  kind : TokenKind
  /-- The line that it is on, counted from 1. -/
  line : Nat
  deriving DecidableEq

namespace Token

/-- The token is the end of the stream. -/
def isEnd (token : Token) : Bool :=
  token.kind = .endOfStream

/-- The token stands on the given line; the end of the stream stands on none, although it has the
number of a line. -/
def isOn (token : Token) (line : Nat) : Bool :=
  token.line = line && !token.isEnd

end Token

/-- No lexeme is the end of the stream. -/
theorem TokenKind.ne_endOfStream_of_ofLexeme {lexeme : Lexeme} {kind : TokenKind}
    (h : ofLexeme lexeme = .ok kind) : kind ≠ .endOfStream := by
  rintro rfl
  cases lexeme with
  | stray c => cases h
  | word text first =>
    simp only [ofLexeme, ofWord, ofTagged] at h
    repeat' split at h
    all_goals cases h

end IppCode
