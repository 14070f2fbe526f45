/-!
# Opcodes and their signatures

The 35 opcodes of the language, how each is written, and which operands each takes. An opcode does
not list its operands itself: it has one of eight signatures, and a signature fixes what each
operand position calls for. So the validator needs no case per opcode, and what it does with an
instruction depends on the signature alone.

The mnemonic is the spelling in a program and in a document, in upper case; the title is the
spelling in the log. `Opcode.all` holds every opcode (`Opcode.mem_all`), in the order in which they
are numbered, and recognising an opcode is a search in this list.
-/

namespace IppCode

/-- What an operand position calls for: a variable, a symbol (a variable or a constant), a label, or
the name of a type. A symbol can be one of two tokens, and so can a label, since the names of types
are not reserved. -/
inductive OperandKind
  | var
  | symb
  | label
  | type
  deriving DecidableEq

/-- How the kind is named in diagnostics. -/
def OperandKind.description : OperandKind → String
  | var => "variable"
  | symb => "symbol (variable or constant)"
  | label => "label"
  | type => "type name"

/-- The operand lists that occur. They are named for what they ask for, from left to right. -/
inductive Signature
  | nullary
  | var
  | symb
  | label
  | varSymb
  | varType
  | varSymbSymb
  | labelSymbSymb
  deriving DecidableEq

namespace Signature

/-- What the operand positions call for, from left to right. -/
def operandKinds : Signature → List OperandKind
  | nullary => []
  | var => [.var]
  | symb => [.symb]
  | label => [.label]
  | varSymb => [.var, .symb]
  | varType => [.var, .type]
  | varSymbSymb => [.var, .symb, .symb]
  | labelSymbSymb => [.label, .symb, .symb]

/-- The number of operands. -/
def arity (signature : Signature) : Nat :=
  signature.operandKinds.length

end Signature

/-- The opcodes. -/
inductive Opcode
  -- frames and calls
  | move | createFrame | pushFrame | popFrame | defVar | call | ret
  -- the data stack
  | pushS | popS
  -- arithmetic, comparison, logic and conversion
  | add | sub | mul | idiv | lt | gt | eq | and | or | not | int2Char | stri2Int
  -- input and output
  | read | write
  -- strings
  | concat | strLen | getChar | setChar
  -- types
  | type
  -- control flow
  | label | jump | jumpIfEq | jumpIfNeq | exit
  -- debugging
  | dPrint | brk
  deriving DecidableEq

namespace Opcode

/-- Every opcode, in the order in which they are numbered. The list is what mnemonics are looked up
in. -/
def all : List Opcode :=
  [move, createFrame, pushFrame, popFrame, defVar, call, ret, pushS, popS, add, sub, mul, idiv,
    lt, gt, eq, and, or, not, int2Char, stri2Int, read, write, concat, strLen, getChar, setChar,
    type, label, jump, jumpIfEq, jumpIfNeq, exit, dPrint, brk]

/-- The opcode as it is written in a program. -/
def mnemonic : Opcode → String
  | move => "MOVE"
  | createFrame => "CREATEFRAME"
  | pushFrame => "PUSHFRAME"
  | popFrame => "POPFRAME"
  | defVar => "DEFVAR"
  | call => "CALL"
  | ret => "RETURN"
  | pushS => "PUSHS"
  | popS => "POPS"
  | add => "ADD"
  | sub => "SUB"
  | mul => "MUL"
  | idiv => "IDIV"
  | lt => "LT"
  | gt => "GT"
  | eq => "EQ"
  | and => "AND"
  | or => "OR"
  | not => "NOT"
  | int2Char => "INT2CHAR"
  | stri2Int => "STRI2INT"
  | read => "READ"
  | write => "WRITE"
  | concat => "CONCAT"
  | strLen => "STRLEN"
  | getChar => "GETCHAR"
  | setChar => "SETCHAR"
  | type => "TYPE"
  | label => "LABEL"
  | jump => "JUMP"
  | jumpIfEq => "JUMPIFEQ"
  | jumpIfNeq => "JUMPIFNEQ"
  | exit => "EXIT"
  | dPrint => "DPRINT"
  | brk => "BREAK"

/-- The opcode as log lines name it, its words capitalised. -/
def title : Opcode → String
  | move => "Move"
  | createFrame => "CreateFrame"
  | pushFrame => "PushFrame"
  | popFrame => "PopFrame"
  | defVar => "DefVar"
  | call => "Call"
  | ret => "Return"
  | pushS => "PushS"
  | popS => "PopS"
  | add => "Add"
  | sub => "Sub"
  | mul => "Mul"
  | idiv => "IDiv"
  | lt => "Lt"
  | gt => "Gt"
  | eq => "Eq"
  | and => "And"
  | or => "Or"
  | not => "Not"
  | int2Char => "Int2Char"
  | stri2Int => "Stri2Int"
  | read => "Read"
  | write => "Write"
  | concat => "Concat"
  | strLen => "StrLen"
  | getChar => "GetChar"
  | setChar => "SetChar"
  | type => "Type"
  | label => "Label"
  | jump => "Jump"
  | jumpIfEq => "JumpIfEq"
  | jumpIfNeq => "JumpIfNeq"
  | exit => "Exit"
  | dPrint => "DPrint"
  | brk => "Break"

/-- The signature of the opcode. Opcodes that share one are checked alike. -/
def signature : Opcode → Signature
  | createFrame | pushFrame | popFrame | ret | brk => .nullary
  | defVar | popS => .var
  | pushS | write | exit | dPrint => .symb
  | call | label | jump => .label
  | move | int2Char | strLen | type | not => .varSymb
  | read => .varType
  | add | sub | mul | idiv | lt | gt | eq | and | or | stri2Int | concat | getChar | setChar =>
    .varSymbSymb
  | jumpIfEq | jumpIfNeq => .labelSymbSymb

/-- What the operands of the opcode have to be, from left to right. -/
def operandKinds (opcode : Opcode) : List OperandKind :=
  opcode.signature.operandKinds

/-- The position of the opcode in the numbering, from zero. -/
def index (opcode : Opcode) : Nat :=
  all.idxOf opcode

theorem mem_all (opcode : Opcode) : opcode ∈ all := by
  cases opcode <;> decide

end Opcode

end IppCode
