import IppCode.Document
import IppCode.Text.Utf8
import IppCode.Transfer.Error

/-!
# Failures

Why a program has no document. A `Failure` says in which stage it arose, on which line, and from
which cause; causes are data, and each has one `message`. The exit status of a run depends on the
stage alone.

Causes quote what was found, as it was found, and name what was expected. They are apart from their
messages so that two failures can be compared without a look at their wording. A failure that is
made elsewhere may also be given by its text, which is then the whole message of its cause.
-/

namespace IppCode

/-- Why a piece of the source is part of no token. -/
inductive LexicalFault
  /-- A control character that may not stand outside comments. -/
  | invalidCharacter (c : Char)
  /-- A word that begins with a frame and `@`, and goes on with no name. -/
  | invalidName (name word : String)
  /-- The source is no text at all. -/
  | notUtf8 (fault : Utf8.Fault)
  /-- Any other cause, given by its text. -/
  | described (text : String)
  deriving DecidableEq

/-- The line that every program begins with. -/
def headerText : String :=
  ".IPPcode23"

/-- The cause in words. A character that cannot be seen is spelled out. -/
def LexicalFault.message : LexicalFault → String
  | invalidCharacter c => s!"invalid character {Text.quotedAlone c}"
  | invalidName name word => s!"'{name}' is not a valid variable name (in '{word}')"
  | notUtf8 fault => s!"input is not valid UTF-8: {fault.message}"
  | described text => text

/-- What is wrong with the header. -/
inductive HeaderFault
  /-- There is no word in the source. -/
  | emptyProgram
  /-- The first word is something else. -/
  | missing (found : String)
  /-- Something else is on the line of the header. -/
  | notAlone (found : String)
  /-- Any other cause, given by its text. -/
  | described (text : String)
  deriving DecidableEq

/-- The cause in words. -/
def HeaderFault.message : HeaderFault → String
  | emptyProgram => s!"the program is empty; it should start with {headerText}"
  | missing found => s!"expected {headerText} but found '{found}'"
  | notAlone found => s!"unexpected '{found}' after {headerText}"
  | described text => text

/-- Why the operands of an instruction do not fit its opcode. Positions count from 1. -/
inductive OperandFault
  /-- The line ends before all operands are there. -/
  | tooFew (expected found : Nat)
  /-- The line goes on after the last operand, with this. -/
  | tooMany (expected : Nat) (next : String)
  /-- A constant is called for, and the word with the `@` is none. -/
  | badConstant (position : Nat) (fault : ConstantFault)
  /-- A label is called for, and the word is no identifier. -/
  | badLabel (position : Nat) (text : String)
  /-- The position calls for another kind of operand. -/
  | wrongKind (position : Nat) (kind : OperandKind) (found : String)
  /-- Any other cause, given by its text. -/
  | described (text : String)
  deriving DecidableEq

/-- The cause in words. Opcode and line are not in it; the failure adds them. -/
def OperandFault.message : OperandFault → String
  | tooFew expected found => s!"expected {expected} operands but found only {found}"
  | tooMany expected next =>
    s!"expected {expected} operands but found more, starting with '{next}'"
  | badConstant position fault => s!"operand {position}: {fault.message}"
  | badLabel position text => s!"operand {position}: '{text}' is not a valid label name"
  | wrongKind position kind found =>
    s!"operand {position} should be a {kind.description} but found '{found}'"
  | described text => text

/-- The first failure of a run. Those of a program are on a line of it, save that an empty program
has no line to complain about. -/
inductive Failure
  /-- No token can be made of what stands there. -/
  | lexical (line : Nat) (fault : LexicalFault)
  /-- The program does not begin as it should. -/
  | header (line : Option Nat) (fault : HeaderFault)
  /-- Something else stands where an instruction begins. -/
  | badOpcode (line : Nat) (found : String)
  /-- The operands do not fit the opcode. -/
  | operands (line : Nat) (opcode : Opcode) (fault : OperandFault)
  /-- The source could not be read, or the document not be written. -/
  | transfer (action : Action) (target : Target) (error : TransferError)
  /-- The instructions were handed over out of sequence, which no source brings about. -/
  | outOfSequence (refusal : OutOfSequence)
  deriving DecidableEq

/-- How a run ended, as its exit status tells. -/
inductive ExitStatus
  | success
  | badInvocation
  | inputUnavailable
  | outputUnavailable
  | badHeader
  | badOpcode
  | lexicalOrSyntax
  /-- Something went wrong that is no fault of the input. -/
  | internalError
  deriving DecidableEq

/-- The number that the process ends with. Faults around the program are numbered from 10 on, faults
of the program from 21 on. -/
def ExitStatus.code : ExitStatus → Nat
  | success => 0
  | badInvocation => 10
  | inputUnavailable => 11
  | outputUnavailable => 12
  | badHeader => 21
  | badOpcode => 22
  | lexicalOrSyntax => 23
  | internalError => 99

namespace Failure

/-- The line on which the failure was noticed, if it has one. -/
def line? : Failure → Option Nat
  | lexical line _ => some line
  | header line _ => line
  | badOpcode line _ => some line
  | operands line _ _ => some line
  | transfer _ _ _ => none
  | outOfSequence _ => none

/-- The exit status that the failure leads to. Lexical faults and faults of operands share one, so
it does not tell them apart. -/
def exitStatus : Failure → ExitStatus
  | lexical _ _ => .lexicalOrSyntax
  | header _ _ => .badHeader
  | badOpcode _ _ => .badOpcode
  | operands _ _ _ => .lexicalOrSyntax
  | transfer .read _ _ => .inputUnavailable
  | transfer .write _ _ => .outputUnavailable
  | outOfSequence _ => .internalError

/-- The failure in words: where it is, what kind of failure it is, and the cause. -/
def message : Failure → String
  | lexical line fault => s!"line {line}: lexical error: {fault.message}"
  | header (some line) fault => s!"line {line}: bad header: {fault.message}"
  | header none fault => s!"bad header: {fault.message}"
  | badOpcode line found => s!"line {line}: expected an opcode but found '{found}'"
  | operands line opcode fault =>
    s!"line {line}: in {opcode.mnemonic} instruction: {fault.message}"
  | transfer action target error =>
    s!"I/O error {action.description} {target.description}: {error.message}"
  | outOfSequence refusal => refusal.message

end Failure

end IppCode
