import IppCode.Command.Options
import IppCode.Document.Markup
import IppCode.Parse
import IppCode.Text.Terminal

/-!
# The command

Reads a source, parses it, and writes its document, as the options say. Nothing is written unless
the whole program is valid.

The command is written against a `Host`, which gives it its files and its standard streams, so that
the same definition runs in a real process and in a modelled world. All it reports is data until the
end: the lines for standard error are made from the events of the run. So neither the threshold of
the log nor what is in it has any bearing on what is read or written.

An output that is a file is created only when the document is there to be written. Before that, the
host has been asked for nothing but the source, and a failure up to then leaves it as it was.
-/

namespace IppCode.Command

/-- Access to files and standard streams. Errors are answers and not effects, so that whoever asks
has to say what follows from them. -/
class Host (m : Type → Type) where
  /-- All of standard input. -/
  readStdin : m (Except TransferError ByteArray)
  /-- The contents of the file at a path. -/
  readFile : String → m (Except TransferError ByteArray)
  /-- Writes the bytes and flushes. -/
  writeStdout : ByteArray → m (Except TransferError Unit)
  /-- Creates the file, or empties it, and writes the bytes to it. -/
  writeFile : String → ByteArray → m (Except TransferError Unit)

section Run

variable {m : Type → Type} [Monad m] [Host m]

/-- Parses the input that the options name. -/
def parseFrom (input : Option String) : m Outcome := do
  match input with
  | some path => return parseInput (← Host.readFile path) (.file path)
  | none => return parseInput (← Host.readStdin) .stdin

/-- Writes bytes to the output that the options name. The failure names it as well. -/
def send (output : Option String) (bytes : ByteArray) : m (Except Failure Unit) := do
  match output with
  | some path =>
    return (← Host.writeFile path bytes).mapError (.transfer .write (.file path))
  | none => return (← Host.writeStdout bytes).mapError (.transfer .write .stdout)

/-- Parses a program and, if it is valid, writes its document. That the program was found valid is
reported whether or not its document can be written. -/
def parseAndEmit (options : Options) : m Outcome := do
  let parsed ← parseFrom options.input
  match parsed.result with
  | .error _ => return parsed
  | .ok document =>
    let sent ← send options.output document.render.toUTF8
    return { parsed with
      result := sent.map fun _ ↦ document
      events := parsed.events ++ [.documentReady document.instructions.length] }

end Run

/-! ### The log -/

/-- The line for an event, with what it happened in: the command with its options, and within
it the scope, if the event is of the examination. The message may hold the name of a file, so it
is made fit for a terminal. -/
def logLine (options : Options) (scope? : Option Scope) (event : Event) : String :=
  let inner := match scope? with
    | some scope => if event.origin.isInner then ":" ++ scope.logForm else ""
    | none => ""
  s!"{event.level.name} {options.logForm}{inner}: {event.origin.path}: "
    ++ Text.forTerminal event.message

/-- The lines for the events up to a threshold. They name the scope only if it is up to the
threshold itself. -/
def logLines (options : Options) (threshold : Option Level) (scope? : Option Scope)
    (events : List Event) : List String :=
  let shown? := scope?.filter (·.level.isShown threshold)
  (events.filter (·.level.isShown threshold)).map (logLine options shown?)

/-! ### Whole runs -/

/-- What a run of the command leaves for its caller: how it ended, and its complaints. The
complaints are the lines for standard error, the log among them. -/
structure Report where
  /-- The exit status, which is a number to the process only. -/
  status : ExitStatus
  /-- The lines for standard error, in order. -/
  complaints : List String

/-- The last event of a run. It is added when all else is done. -/
def closing : Except Failure Document → Event
  | .ok document => .succeeded document.instructions.length
  | .error failure => .failed failure

/-- The report on a run that parsed. The message of a failure is the last line, and is there
whatever the threshold of the log is. -/
def Report.ofOutcome (options : Options) (threshold : Option Level) (outcome : Outcome) :
    Report :=
  let log := logLines options threshold outcome.scope? (outcome.events ++ [closing outcome.result])
  match outcome.result with
  | .ok _ => ⟨.success, log⟩
  | .error failure => ⟨failure.exitStatus, log ++ [failure.message]⟩

/-- The answer to a request for help. -/
def helpText : String :=
  "Reads IPPcode23 source code, checks it for lexical and syntactic correctness, and prints "
    ++ "its XML representation\n"
    ++ "\n"
    ++ "Usage: parse [OPTIONS]\n"
    ++ "\n"
    ++ "Options:\n"
    ++ "  -i, --input <INPUT>    "
    ++ "File from which source code is read (default: standard input)\n"
    ++ "  -o, --output <OUTPUT>  "
    ++ "File to which the XML document is written (default: standard output)\n"
    ++ "  -h, --help             Print help\n"

/-- Runs the command on its arguments, logging events up to a threshold. Arguments that are not
accepted end the run before anything is read. -/
def run {m : Type → Type} [Monad m] [Host m] (threshold : Option Level)
    (arguments : List String) : m Report := do
  match Request.ofArguments arguments with
  | .error refusal => return ⟨.badInvocation, [refusal.message]⟩
  | .ok .help =>
    match ← Host.writeStdout helpText.toUTF8 with
    | .ok () => return ⟨.success, []⟩
    | .error error => return ⟨.badInvocation, [(Refusal.helpNotPrinted error.message).message]⟩
  | .ok (.parse options) => return Report.ofOutcome options threshold (← parseAndEmit options)

end IppCode.Command
