import IppCode.Token

/-!
# Events

What a run reports while it goes on, as data. Every stage hands its events on in the order in
which they happened, and nothing is rendered before the run is over: the same list serves the
log of a run and every statement about what was logged. What comes of an event in the log is its
level, its origin and its message, and all three are functions of the event.

A `Scope` is no event. It is what the events of an examination are reported within, so that each
of their lines can name it; on its own it makes no line.
-/

namespace IppCode

/-- How urgent an event is, from the most to the least. -/
inductive Level
  | error
  | warn
  | info
  | debug
  | trace
  deriving DecidableEq

namespace Level

/-- The level as log lines show it. -/
def name : Level → String
  | error => "ERROR"
  | warn => "WARN"
  | info => "INFO"
  | debug => "DEBUG"
  | trace => "TRACE"

/-- The level's place in the order of urgency, the most urgent first. -/
def rank : Level → Nat
  | error => 0
  | warn => 1
  | info => 2
  | debug => 3
  | trace => 4

/-- Whether events of this level are shown up to the given threshold; without one, none is. -/
def isShown (level : Level) : Option Level → Bool
  | none => false
  | some threshold => level.rank ≤ threshold.rank

end Level

/-- What can happen in a run. Lines and instructions count from 1. An event has all that its line in
the log tells, and nothing about how it is told. -/
inductive Event
  /-- The whole source was read. -/
  | sourceRead (bytes : Nat) (target : Target)
  /-- The word in bytes `start` to `stop` of the source was taken for a token. -/
  | tokenFound (line start stop : Nat) (kind : TokenKind)
  /-- The end of the source was reached, on its last line. -/
  | endReached (line : Nat)
  /-- The header was found alone on the line. -/
  | headerAccepted (line : Nat)
  /-- The instruction on the line was found complete, and has been given its number. -/
  | instructionAccepted (line number : Nat) (opcode : Opcode) (operands : Nat)
  /-- The program was found complete, with so many instructions. -/
  | programAccepted (instructions : Nat)
  /-- The document is about to be written. -/
  | documentReady (instructions : Nat)
  /-- The run is over, and the document has been written. -/
  | succeeded (instructions : Nat)
  /-- The run is over, with the failure. -/
  | failed (failure : Failure)
  deriving DecidableEq

/-- The part of the program that an event comes from. -/
inductive Origin
  | lexer
  | validator
  | driver
  | command
  deriving DecidableEq

/-- The origin as log lines name it. -/
def Origin.path : Origin → String
  | lexer => "parser::lexer"
  | validator => "parser::validator"
  | driver => "parser::driver"
  | command => "parse"

/-- Events of the examination itself, between its beginning and its end. -/
def Origin.isInner : Origin → Bool
  | lexer => true
  | validator => true
  | driver => false
  | command => false

/-- What the events of an examination are reported within: the examination of so many bytes. -/
structure Scope where
  bytes : Nat
  deriving DecidableEq

namespace Scope

/-- Log lines name the scope at this level and below. -/
def level (_ : Scope) : Level :=
  .debug

/-- The scope as log lines show it. -/
def logForm (scope : Scope) : String :=
  s!"parse_source\x7bbytes={scope.bytes}\x7d"

end Scope

/-- The failure as log lines show it. -/
def Failure.logForm : Failure → String
  | lexical line fault =>
    s!"Lexical \x7b line: {line}, msg: " ++ Text.quoted fault.message ++ " \x7d"
  | header (some line) fault =>
    s!"Header \x7b line: Some({line}), msg: " ++ Text.quoted fault.message ++ " \x7d"
  | header none fault =>
    "Header \x7b line: None, msg: " ++ Text.quoted fault.message ++ " \x7d"
  | badOpcode line found =>
    s!"Opcode \x7b line: {line}, found: " ++ Text.quoted found ++ " \x7d"
  | operands line op fault =>
    s!"Syntax \x7b line: {line}, opcode: {op.title}, msg: " ++ Text.quoted fault.message
      ++ " \x7d"
  | transfer action target error =>
    s!"Io(IoFailed \x7b action: {action.title}, target: " ++ target.logForm
      ++ ", error: " ++ error.logForm ++ " \x7d)"
  | outOfSequence refusal => "OutOfSequence(" ++ Text.quoted refusal.message ++ ")"

/-! ### What becomes of an event -/

namespace Event

/-- How urgent the event is. Tokens are of the least interest. -/
def level : Event → Level
  | sourceRead _ _ => .debug
  | tokenFound _ _ _ _ => .trace
  | endReached _ => .trace
  | headerAccepted _ => .debug
  | instructionAccepted _ _ _ _ => .debug
  | programAccepted _ => .debug
  | documentReady _ => .info
  | succeeded _ => .info
  | failed _ => .error

/-- Where the event comes from. -/
def origin : Event → Origin
  | sourceRead _ _ => .driver
  | tokenFound _ _ _ _ => .lexer
  | endReached _ => .lexer
  | headerAccepted _ => .validator
  | instructionAccepted _ _ _ _ => .validator
  | programAccepted _ => .validator
  | documentReady _ => .driver
  | succeeded _ => .command
  | failed _ => .command

/-- The text of the event. -/
def message : Event → String
  | sourceRead bytes target => s!"read {bytes} bytes from {target.description}"
  | tokenFound line start stop kind =>
    s!"line {line}, offset {start}..{stop}: {kind.logForm}"
  | endReached line => s!"end of input at line {line}"
  | headerAccepted line => s!"found header on line {line}"
  | instructionAccepted line number opcode operands =>
    s!"line {line}: instruction {number} is {opcode.mnemonic} with {operands} operands"
  | programAccepted instructions => s!"end of program after {instructions} instructions"
  | documentReady instructions => s!"validated {instructions} instructions"
  | succeeded instructions => s!"parse succeeded ({instructions} instructions)"
  | failed failure => s!"parse failed: ParseFail({failure.logForm})"

end Event

end IppCode
