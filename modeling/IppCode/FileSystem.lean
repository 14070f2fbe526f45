import IppCode.Text.Cut
import IppCode.Transfer.Sink

/-!
# The file system

As much of a file system as reading a source and writing a document need: directories, regular
files and two devices, under absolute paths, with a working directory.

A path as it is written (`Route`) is followed one step at a time from the root or the working
directory, and every step but the last has to arrive at a directory. Two operations are built on
this: `readFile` gives the contents of a file, `create` makes a file or empties the one that is
there. What is written to a created file goes to its end (`FileSystem.fileSink`).

Main statements: what `put` stores is found again and nothing else changes (`node?_put_self`,
`node?_put_of_ne`), and a failing `create` changes nothing, since it has no file system to give
back.
-/

namespace IppCode

/-- An absolute path: the names from the root on. -/
abbrev Path :=
  List String

/-- The two devices: one swallows whatever is written to it, the other has no room for it. -/
inductive Device
  /-- Takes everything and keeps nothing. -/
  | null
  /-- Takes nothing. -/
  | full
  deriving DecidableEq

/-- What a path can lead to. -/
inductive Node
  | directory
  | file (contents : ByteArray)
  | device (device : Device)

/-- What there is below the root, and the directory that relative paths start from. The root itself
is no entry, so it cannot be missing or be anything but a directory. -/
structure FileSystem where
  /-- What there is, by its path. Of two entries for a path the first counts, but `put` leaves only
  one. -/
  entries : List (Path × Node)
  /-- Where relative paths start. -/
  workingDirectory : Path

/-! ### Paths as they are written -/

/-- The longest name of a file, in bytes. -/
def longestName : Nat :=
  255

/-- The longest path, in bytes. -/
def longestPath : Nat :=
  4095

/-- A path as it is written: where it starts, the names on the way, and whether it ends with a
slash, as only the path of a directory may. -/
structure Route where
  /-- The path begins with a slash. -/
  absolute : Bool
  /-- The names between the slashes. -/
  steps : List String
  /-- The path ends with a slash. -/
  trailingSlash : Bool

namespace Route

/-- The route that a text describes. Empty names between slashes count for nothing. -/
def ofText (text : String) : Route where
  absolute := text.toList.head? = some '/'
  steps := ((Text.splitAt '/' text.toList).map String.ofList).filter (· ≠ "")
  trailingSlash := text.toList.getLast? = some '/'

/-- The route that a text describes, if any path can be written so. -/
def parse (text : String) : Except TransferError Route :=
  if '\x00' ∈ text.toList then .error .nulInName
  else if text = "" then .error (.os .notFound)
  else if longestPath < text.utf8ByteSize then .error (.os .nameTooLong)
  else .ok (ofText text)

end Route

namespace FileSystem

/-! ### Nodes -/

/-- What is at a path. The root is always a directory. -/
def node? (fs : FileSystem) (path : Path) : Option Node :=
  if path = [] then some .directory else fs.entries.lookup path

/-- The file system with a node at a path. -/
def put (fs : FileSystem) (path : Path) (node : Node) : FileSystem :=
  { fs with entries := (path, node) :: fs.entries.filter (·.1 ≠ path) }

/-- Where a route starts. -/
def origin (fs : FileSystem) (route : Route) : Path :=
  if route.absolute then [] else fs.workingDirectory

/-- The node at a path, which has to be a directory for a step to be taken from there. -/
def requireDirectory (fs : FileSystem) (path : Path) : Except OsError Unit :=
  match fs.node? path with
  | some .directory => .ok ()
  | some _ => .error .notADirectory
  | none => .error .notFound

/-- One step from a directory to something that is there. Two names are steps of their own: one
stays, the other goes back, and from the root it stays as well. -/
def enter (fs : FileSystem) (path : Path) (name : String) : Except OsError Path := do
  fs.requireDirectory path
  if name = "." then return path
  else if name = ".." then return path.dropLast
  else if longestName < name.utf8ByteSize then throw .nameTooLong
  else if (fs.node? (path ++ [name])).isSome then return path ++ [name]
  else throw .notFound

/-- All the steps, one after the other. -/
def follow (fs : FileSystem) (start : Path) (steps : List String) : Except OsError Path :=
  steps.foldlM fs.enter start

/-! ### Reading -/

/-- The contents of what a route leads to. A device is read as empty, and only a directory may be
named with a slash at the end. -/
def readRoute (fs : FileSystem) (route : Route) : Except OsError ByteArray := do
  let path ← fs.follow (fs.origin route) route.steps
  match fs.node? path with
  | some .directory => throw .isADirectory
  | some (.file contents) => if route.trailingSlash then throw .notADirectory else return contents
  | some (.device _) =>
    if route.trailingSlash then throw .notADirectory else return ByteArray.empty
  | none => throw .notFound

/-- The contents of the file that a text names, or the error that reading it ends with. -/
def readFile (fs : FileSystem) (text : String) : Except TransferError ByteArray := do
  let route ← Route.parse text
  (fs.readRoute route).mapError .os

/-! ### Writing -/

/-- The file of the given name in a directory, made or emptied. A device is there already and cannot
be emptied. -/
def createIn (fs : FileSystem) (directory : Path) (name : String) (trailingSlash : Bool) :
    Except OsError (Path × FileSystem) := do
  fs.requireDirectory directory
  if name = "." ∨ name = ".." ∨ trailingSlash then throw .isADirectory
  else if longestName < name.utf8ByteSize then throw .nameTooLong
  else
    let path := directory ++ [name]
    match fs.node? path with
    | some .directory => throw .isADirectory
    | some (.device _) => return (path, fs)
    | some (.file _) | none => return (path, fs.put path (.file ByteArray.empty))

/-- Creates the file that a route leads to. -/
def createRoute (fs : FileSystem) (route : Route) : Except OsError (Path × FileSystem) :=
  match route.steps.getLast? with
  | none => .error .isADirectory
  | some name => do
    let directory ← fs.follow (fs.origin route) route.steps.dropLast
    fs.createIn directory name route.trailingSlash

/-- Creates a file, or empties the one that is there; with its path. Only on success is there a file
system to go on with, so a failure has changed nothing. -/
def create (fs : FileSystem) (text : String) : Except TransferError (Path × FileSystem) := do
  let route ← Route.parse text
  (fs.createRoute route).mapError .os

/-- The open file at a path: all that is offered to it is added at its end. Of the devices, one
takes everything and keeps nothing, and the other refuses. -/
def fileSink (path : Path) : Sink FileSystem where
  write bytes fs :=
    match fs.node? path with
    | some (.file contents) => (.ok bytes.size, fs.put path (.file (contents ++ bytes)))
    | some (.device .null) => (.ok bytes.size, fs)
    | some (.device .full) => (.error (.os .noSpace), fs)
    | some .directory => (.error (.os .isADirectory), fs)
    | none => (.error (.os .notFound), fs)
  flush fs := (.ok (), fs)

/-- Creates a file and writes the bytes to it. If the bytes cannot be written, the file has been
created all the same. -/
def writeFile (fs : FileSystem) (text : String) (bytes : ByteArray) :
    Except TransferError Unit × FileSystem :=
  match fs.create text with
  | .ok (path, created) => (fileSink path).send bytes created
  | .error error => (.error error, fs)

/-! ### What is stored is found again -/

@[simp]
theorem node?_root (fs : FileSystem) : fs.node? [] = some .directory :=
  rfl

theorem node?_put_self (fs : FileSystem) {path : Path} (h : path ≠ []) (node : Node) :
    (fs.put path node).node? path = some node := by
  simp [node?, put, h]

theorem lookup_filter_ne {path other : Path} (h : other ≠ path) (entries : List (Path × Node)) :
    (entries.filter (·.1 ≠ path)).lookup other = entries.lookup other := by
  induction entries with
  | nil => rfl
  | cons entry entries ih =>
    obtain ⟨key, node⟩ := entry
    by_cases hkey : key = path
    · subst hkey
      simpa [List.lookup_cons, beq_eq_false_iff_ne.2 h] using ih
    · simp only [ne_eq, decide_not, hkey, decide_false, Bool.not_false,
        List.filter_cons_of_pos, List.lookup_cons]
      split
      · rfl
      · simpa using ih

theorem node?_put_of_ne (fs : FileSystem) {path other : Path} (h : other ≠ path) (node : Node) :
    (fs.put path node).node? other = fs.node? other := by
  simp only [node?, put]
  split
  · rfl
  · rw [List.lookup_cons, beq_eq_false_iff_ne.2 h]
    exact lookup_filter_ne h fs.entries

end FileSystem

end IppCode
