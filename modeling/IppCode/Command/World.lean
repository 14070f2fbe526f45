import IppCode.Command.Run
import IppCode.FileSystem

/-!
# A world for the command

Files and standard streams as a value, so that a run of the command is a function from the world
before it to the world after it. What a run does to its surroundings can then be said with equations
between worlds: what is the same in both has not been touched.

Standard output is a stream that never fails here. The file system has a device that is full, so
failures to write are met with an output that is a file.
-/

namespace IppCode.Command

/-- What a run can read and change. -/
structure World where
  /-- The file system. -/
  files : FileSystem
  /-- What there is to read from standard input. -/
  stdin : ByteArray
  /-- What has been written to standard output. -/
  stdout : ByteArray

/-- A stream that keeps all that is written to it. It takes everything at once, and has nothing to
flush. -/
def streamSink : Sink ByteArray where
  write bytes written := (.ok bytes.size, written ++ bytes)
  flush written := (.ok (), written)

instance : Host (StateM World) where
  readStdin := fun world ↦ (.ok world.stdin, world)
  readFile path := fun world ↦ (world.files.readFile path, world)
  writeStdout bytes := fun world ↦
    let (sent, stdout) := streamSink.send bytes world.stdout
    (sent, { world with stdout })
  writeFile path bytes := fun world ↦
    let (sent, files) := world.files.writeFile path bytes
    (sent, { world with files })

/-- The command as a function on worlds. -/
def World.run (world : World) (threshold : Option Level) (arguments : List String) :
    Report × World :=
  (Command.run threshold arguments : StateM World Report).run world

end IppCode.Command
