import IppCode.Text.Quoted

/-!
# Transfer errors

What can go wrong while the source is brought in or the document is sent out, as far as the outside
world reports it: an error of the operating system, with its number and its text, a writer that
takes no more bytes, or a file name that no file can have.

None of this is the fault of a program. A transfer error becomes a `Failure` together with the
direction and the other end of the transfer, and the direction alone decides the exit status.
Direction, target and error have one form for diagnostics and another for the log.
-/

namespace IppCode

/-- The direction of a transfer. -/
inductive Action
  | read
  | write
  deriving DecidableEq

/-- The direction as diagnostics name it. -/
def Action.description : Action → String
  | read => "reading from"
  | write => "writing to"

/-- The direction as log lines name it. -/
def Action.title : Action → String
  | read => "Read"
  | write => "Write"

/-- The other end of a transfer. -/
inductive Target
  | stdin
  | stdout
  | file (path : String)
  deriving DecidableEq

/-- The target as diagnostics name it. A path is named as it was given. -/
def Target.description : Target → String
  | stdin => "standard input"
  | stdout => "standard output"
  | file path => s!"file {path}"

/-- The target as log lines show it. -/
def Target.logForm : Target → String
  | stdin => "Stdin"
  | stdout => "Stdout"
  | file path => "File(" ++ Text.quoted path ++ ")"

/-- An error of the operating system: its number and its text. The text comes with the number, but
is kept, since which text it is depends on the system. -/
structure OsError where
  code : Nat
  text : String
  deriving DecidableEq

namespace OsError

def notFound : OsError :=
  ⟨2, "No such file or directory"⟩

def notADirectory : OsError :=
  ⟨20, "Not a directory"⟩

def isADirectory : OsError :=
  ⟨21, "Is a directory"⟩

def noSpace : OsError :=
  ⟨28, "No space left on device"⟩

def nameTooLong : OsError :=
  ⟨36, "File name too long"⟩

/-- The class of the error, by its number. Log lines name it beside the number. -/
def kind (error : OsError) : String :=
  match error.code with
  | 1 | 13 => "PermissionDenied"
  | 2 => "NotFound"
  | 4 => "Interrupted"
  | 12 => "OutOfMemory"
  | 16 => "ResourceBusy"
  | 17 => "AlreadyExists"
  | 20 => "NotADirectory"
  | 21 => "IsADirectory"
  | 22 => "InvalidInput"
  | 26 => "ExecutableFileBusy"
  | 27 => "FileTooLarge"
  | 28 => "StorageFull"
  | 30 => "ReadOnlyFilesystem"
  | 32 => "BrokenPipe"
  | 36 => "InvalidFilename"
  | 40 => "FilesystemLoop"
  | _ => "Uncategorized"

def message (error : OsError) : String :=
  s!"{error.text} (os error {error.code})"

end OsError

/-- Why a transfer failed. -/
inductive TransferError
  | os (error : OsError)
  /-- The writer accepted no byte of what was left to write. -/
  | writeZero
  /-- The file name has a NUL character in it. -/
  | nulInName
  /-- Any other reason, given by its text. -/
  | described (text : String)
  deriving DecidableEq

namespace TransferError

/-- The transfer was interrupted, and is to be tried again. -/
def isInterruption : TransferError → Bool
  | os error => error.kind = "Interrupted"
  | _ => false

def message : TransferError → String
  | os error => error.message
  | writeZero => "failed to write whole buffer"
  | nulInName => "file name contained an unexpected NUL byte"
  | described text => text

/-- The error as log lines show it. -/
def logForm : TransferError → String
  | os error =>
    s!"Os \x7b code: {error.code}, kind: {error.kind}, message: " ++ Text.quoted error.text
      ++ " \x7d"
  | writeZero =>
    "Error \x7b kind: WriteZero, message: \"failed to write whole buffer\" \x7d"
  | nulInName =>
    "Error \x7b kind: InvalidInput, message: "
      ++ "\"file name contained an unexpected NUL byte\" \x7d"
  | described text => "Custom \x7b kind: Other, error: " ++ Text.quoted text ++ " \x7d"

end TransferError

end IppCode
