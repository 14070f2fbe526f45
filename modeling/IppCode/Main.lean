import IppCode.Command.Run

/-!
# The program

Runs the command in its process. All decisions are made in `IppCode.Command.Run`; here are the
process's files and streams. How much is logged is chosen by the environment variable
`RUST_LOG`, which names a level or is `off`; without it, or with anything else in it, the level
is `info`.
-/

namespace IppCode.Main

/-- An error of the process's system calls, by its number and text. What else the runtime knows of
the error is dropped, since the number is what it comes from. -/
def transferError (error : IO.Error) : TransferError :=
  match error with
  | .alreadyExists _ code text | .otherError code text | .resourceBusy code text
  | .resourceVanished code text | .unsupportedOperation code text | .hardwareFault code text
  | .unsatisfiedConstraints code text | .illegalOperation code text | .protocolError code text
  | .timeExpired code text | .interrupted _ code text | .noFileOrDirectory _ code text
  | .invalidArgument _ code text | .permissionDenied _ code text
  | .resourceExhausted _ code text | .inappropriateType _ code text
  | .noSuchThing _ code text => .os ⟨code.toNat, text⟩
  | .unexpectedEof => .described "unexpected end of file"
  | .userError text => .described text

/-- Runs a transfer, with its error as a value. -/
def attempt {α : Type} (transfer : IO α) : IO (Except TransferError α) := do
  match ← transfer.toBaseIO with
  | .ok value => return .ok value
  | .error error => return .error (transferError error)

/-- The rest of a stream. -/
partial def readAll (stream : IO.FS.Stream) (read : ByteArray) : IO ByteArray := do
  let piece ← stream.read 65536
  if piece.isEmpty then return read else readAll stream (read ++ piece)

instance : Command.Host IO where
  readStdin := attempt do readAll (← IO.getStdin) ByteArray.empty
  readFile path := attempt do (← IO.FS.Handle.mk path .read).readBinToEnd
  writeStdout bytes := attempt do
    let stdout ← IO.getStdout
    stdout.write bytes
    stdout.flush
  writeFile path bytes := attempt do
    let file ← IO.FS.Handle.mk path .write
    file.write bytes
    file.flush

/-- The threshold of the given name; an unknown name means the usual one. -/
def threshold (name? : Option String) : Option Level :=
  match name? with
  | some "off" => none
  | some "error" => some .error
  | some "warn" => some .warn
  | some "info" => some .info
  | some "debug" => some .debug
  | some "trace" => some .trace
  | _ => some .info

end IppCode.Main

def main (arguments : List String) : IO UInt32 := do
  let threshold := IppCode.Main.threshold (← IO.getEnv "RUST_LOG")
  let report : IppCode.Command.Report ← IppCode.Command.run threshold arguments
  for complaint in report.complaints do
    IO.eprintln complaint
  return report.status.code.toUInt32
