import IppCode.Event
import IppCode.Proofs.Words.Spelling

/-!
# The wording of events

What the events of an examination are in the log. An event is data for as long as a run goes on,
and a line of the log at its end. `Event.Logged` lists the lines one by one, by their level, where
in the program they come from, and their text; it does not look at how the text is made.

* `line 2, offset 11..15: Opcode(Move)`
* `end of input at line 3`
* `found header on line 1`
* `line 2: instruction 1 is MOVE with 2 operands`
* `end of program after 1 instructions`

The part of a line that is not fixed is the token. A token is shown by what it was taken for and, if
there is anything more to say, by its text (`TokenKind.Shown`). Texts are quoted, and in general a
quoted text is not the text. Names of variables are the exception, since no character of a name has
to be spelled out (`Identifier.quoted_eq`), so they stand in the log as they stand in the source.
-/

namespace IppCode

/-! ### Names -/

/-- A name is quoted as it is. -/
theorem Identifier.quoted_eq {name : String} (h : Identifier name) :
    Text.quoted name = "\"" ++ name ++ "\"" :=
  Text.quoted_of_printable (fun _ hc ↦ h.printable hc) (h.not_mem (by decide))
    (h.not_mem (by decide))

/-! ### Tokens

What a token is called in the log, and what is quoted of it. -/

namespace TokenKind

/-- The token as log lines show it. -/
inductive Shown : TokenKind → String → Prop
  /-- The case in which the header was written is not kept. -/
  | header : Shown .header "Header"
  /-- The words of the mnemonic are capitalised, and else it is as in a program. -/
  | opcode (op : Opcode) (hcase : Text.upperCase op.title = op.mnemonic) :
    Shown (.opcode op) s!"Opcode({op.title})"
  /-- The name of a variable stands between quotes, and needs nothing spelled out. -/
  | var (v : Variable) :
    Shown (.var v)
      (s!"Variable(Variable \x7b frame: {v.frame.title}, name: " ++ ("\"" ++ v.name ++ "\"") ++
        " \x7d)")
  /-- Constants may hold any character of words, so their text is quoted. -/
  | constant (lexeme : String) :
    Shown (.constant lexeme) s!"Constant({Text.quoted lexeme})"
  /-- So may labels, since they are not checked by the scanner. -/
  | label (lexeme : String) : Shown (.label lexeme) s!"Label({Text.quoted lexeme})"
  /-- The keyword begins with a capital here. -/
  | type (t : TypeName) (hcase : Text.upperCase t.title = Text.upperCase t.keyword) :
    Shown (.type t) s!"TypeName({t.title})"

theorem shown_logForm {kind : TokenKind} (h : kind ≠ .endOfStream) : kind.Shown kind.logForm := by
  cases kind with
  | header => exact .header
  | opcode op => exact .opcode op (by cases op <;> decide)
  | var v =>
    have hname := (isIdentifier_eq_true_iff.1 v.name_isIdentifier).quoted_eq
    have hform : logForm (.var v) = s!"Variable(Variable \x7b frame: {v.frame.title}, name: " ++
        Text.quoted v.name ++ " \x7d)" := rfl
    rw [hform, hname]
    exact .var v
  | constant lexeme => exact .constant lexeme
  | label lexeme => exact .label lexeme
  | type t => exact .type t (by cases t <;> decide)
  | endOfStream => exact absurd rfl h

end TokenKind

/-! ### Events

The five lines. Which of them an event makes can be told from the event alone, and all that varies
in a line is in its event. -/

/-- What an event of an examination is in the log: its level, where it comes from, and its text. -/
inductive Event.Logged : Event → Level → String → String → Prop
  /-- Of a token, its line, the bytes of its word, and what it was taken for. -/
  | tokenFound (line start stop : Nat) {kind : TokenKind} {shown : String}
      (hkind : kind.Shown shown) :
    Logged (.tokenFound line start stop kind) .trace "parser::lexer"
      s!"line {line}, offset {start}..{stop}: {shown}"
  /-- Of the end, its line only. -/
  | endReached (line : Nat) :
    Logged (.endReached line) .trace "parser::lexer" s!"end of input at line {line}"
  /-- The header is reported by the validator, and tells its line. -/
  | headerAccepted (line : Nat) :
    Logged (.headerAccepted line) .debug "parser::validator" s!"found header on line {line}"
  /-- An instruction tells its line, its number, its opcode and how many operands it has. -/
  | instructionAccepted (line number : Nat) (opcode : Opcode) (operands : Nat) :
    Logged (.instructionAccepted line number opcode operands) .debug "parser::validator"
      s!"line {line}: instruction {number} is {opcode.mnemonic} with {operands} operands"
  /-- The end of the program tells how many instructions there were. -/
  | programAccepted (instructions : Nat) :
    Logged (.programAccepted instructions) .debug "parser::validator"
      s!"end of program after {instructions} instructions"

end IppCode
