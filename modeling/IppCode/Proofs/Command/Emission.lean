import IppCode.Command.World
import IppCode.Proofs.Command.Files

/-!
# All or nothing

A run of the command writes the whole document of a valid program, or nothing at all
(`Command.all_or_nothing`). The input is read and parsed as the world was before, and its output is
only created when there is a document, so it does not matter if both are the same file.

A run is a function on worlds, and opens into what it reads (`World.parsed`) and what it sends
(`World.emit_of_parsed`). All that can go wrong once there is a document is left to the files
(`FileSystem.writeFile_of_create`, `FileSystem.writeFile_of_create_error`).

`AllOrNothing` asks one thing for each place where a run can come to an end, in the order in which
they are passed: the input, the creation of the output, and the writing. Together they leave no room
for a part of a document, and only a device can refuse what was created. A run without an output
path writes to standard output, which takes everything.

A document is never empty, and this is used more than once: a file is only written if something is
sent to it, and a full device refuses bytes and not the empty text.
-/

namespace IppCode

/-- The XML form of a document is never empty. -/
theorem Document.size_render_ne_zero (document : Document) : document.render.toUTF8.size ≠ 0 := by
  have hne : document.render ≠ "" := by
    unfold render
    simp only [ne_eq, String.append_eq_empty_iff]
    exact fun h ↦ absurd h.1.1.1 (by decide)
  rwa [String.toUTF8_eq_toByteArray, String.size_toByteArray, ne_eq,
    String.utf8ByteSize_eq_zero_iff]

theorem ExitStatus.code_eq_zero_iff {status : ExitStatus} :
    status.code = 0 ↔ status = .success := by
  cases status <;> decide

/-- No failure has the exit status of a success. -/
theorem Failure.exitStatus_ne_success (failure : Failure) : failure.exitStatus ≠ .success := by
  cases failure with
  | transfer action target error => cases action <;> exact nofun
  | lexical | header | badOpcode | operands | outOfSequence => exact nofun

namespace Command

/-! ### What a run reads and sends

A run in a world is opened once, here. What it reads does not depend on where its output goes, and
what it sends is decided by what it has read, so from now on a run is two functions on worlds. -/

/-- The target that the input is named by. -/
def inputTarget : Option String → Target
  | some path => .file path
  | none => .stdin

namespace World

/-- What there is to read where the options say. -/
def source (world : World) : Option String → Except TransferError ByteArray
  | some path => world.files.readFile path
  | none => .ok world.stdin

/-- What parsing the input of the options comes to. -/
def parsed (world : World) (options : Options) : Outcome :=
  parseInput (world.source options.input) (inputTarget options.input)

/-- Parsing and writing, as a function on worlds. -/
def emit (world : World) (options : Options) : Outcome × World :=
  (parseAndEmit options : StateM World Outcome).run world

/-- Sending bytes, as a function on worlds. -/
def sent (world : World) (output : Option String) (bytes : ByteArray) :
    Except Failure Unit × World :=
  (send output bytes : StateM World (Except Failure Unit)).run world

variable {world : World} {options : Options}

/-- Reading leaves the world as it is. -/
theorem parseFrom_run (world : World) (input : Option String) :
    (parseFrom input : StateM World Outcome).run world =
      (parseInput (world.source input) (inputTarget input), world) := by
  cases input <;> rfl

/-- The input is parsed, and a document is sent. -/
theorem emit_eq (world : World) (options : Options) :
    world.emit options =
      match (world.parsed options).result with
      | .error _ => (world.parsed options, world)
      | .ok document =>
        let sent := world.sent options.output document.render.toUTF8
        ({ world.parsed options with
           result := sent.1.map fun _ ↦ document
           events := (world.parsed options).events ++
            [.documentReady document.instructions.length] }, sent.2) := by
  rw [emit, parseAndEmit, StateT.run_bind, parseFrom_run]
  show StateT.run (match (world.parsed options).result with
    | .error _ => _
    | .ok document => _ : StateM World Outcome) world = _
  split <;> rfl

/-- Without a document nothing is sent. -/
theorem emit_of_error {failure : Failure} (h : (world.parsed options).result = .error failure) :
    world.emit options = (world.parsed options, world) := by
  rw [emit_eq, h]

/-- A document is sent, and what comes of this is the result. -/
theorem emit_of_parsed {document : Document} (h : (world.parsed options).result = .ok document) :
    (world.emit options).1.result =
        (world.sent options.output document.render.toUTF8).1.map (fun _ ↦ document) ∧
      (world.emit options).2 = (world.sent options.output document.render.toUTF8).2 := by
  rw [emit_eq, h]
  exact ⟨rfl, rfl⟩

/-! ### What becomes of a document

Standard output and files behave alike up to the last step, and are told apart there. The structure
has one field for each end that a run can come to. -/

theorem sent_stdout (world : World) {bytes : ByteArray} (hbytes : bytes.size ≠ 0) :
    world.sent none bytes = (.ok (), { world with stdout := world.stdout ++ bytes }) := by
  have hsend : streamSink.send bytes world.stdout = (.ok (), world.stdout ++ bytes) :=
    Sink.send_of_write hbytes rfl
  show ((streamSink.send bytes world.stdout).1.mapError _,
    { world with stdout := (streamSink.send bytes world.stdout).2 }) = _
  rw [hsend]
  rfl

theorem sent_file (world : World) (path : String) (bytes : ByteArray) :
    world.sent (some path) bytes =
      ((world.files.writeFile path bytes).1.mapError (.transfer .write (.file path)),
        { world with files := (world.files.writeFile path bytes).2 }) :=
  rfl

end World

/-- What a run with the options does to a world: its result, and the world behind it. -/
structure AllOrNothing (world : World) (options : Options) (result : Except Failure Document)
    (after : World) : Prop where
  /-- Only the document of the input, as the input was before, is a result. -/
  parsed : ∀ document, result = .ok document → (world.parsed options).result = .ok document
  /-- An input that cannot be read or is no program changes nothing. -/
  refused : ∀ failure, (world.parsed options).result = .error failure →
    result = .error failure ∧ after = world
  /-- An output that cannot be created changes nothing. -/
  notCreated : ∀ document path error, (world.parsed options).result = .ok document →
    options.output = some path → world.files.create path = .error error →
    result = .error (.transfer .write (.file path) error) ∧ after = world
  /-- A file holds the document, and nothing else changes. -/
  written : ∀ document path place created, (world.parsed options).result = .ok document →
    options.output = some path → world.files.create path = .ok (place, created) →
    (∀ device, world.files.node? place ≠ some (.device device)) →
    result = .ok document ∧
      world.files.Written path place document.render.toUTF8 after.files ∧
      after.stdin = world.stdin ∧ after.stdout = world.stdout
  /-- A device takes the document or has no room for it, and nothing changes. -/
  toDevice : ∀ document path place created device, (world.parsed options).result = .ok document →
    options.output = some path → world.files.create path = .ok (place, created) →
    world.files.node? place = some (.device device) →
    result = (device.taken.mapError (.transfer .write (.file path))).map (fun _ ↦ document) ∧
      after = world
  /-- Without an output path the document goes to standard output, and no file changes. -/
  printed : ∀ document, (world.parsed options).result = .ok document → options.output = none →
    result = .ok document ∧
      after = { world with stdout := world.stdout ++ document.render.toUTF8 }

namespace World

/-- Each of the demands is read off from what becomes of the document that is sent. -/
theorem emit_allOrNothing (world : World) (options : Options) :
    AllOrNothing world options (world.emit options).1.result (world.emit options).2 where
  parsed document hresult := by
    rcases hparsed : (world.parsed options).result with failure | parsed
    · rw [emit_of_error hparsed, hparsed] at hresult
      cases hresult
    -- what is sent decides between the document and a failure, and not which document it is
    · rw [(emit_of_parsed hparsed).1] at hresult
      rcases hsent : (world.sent options.output parsed.render.toUTF8).1 with failure | sent
      · rw [hsent] at hresult
        cases hresult
      · rw [hsent] at hresult
        exact hresult
  refused failure hparsed := by
    rw [emit_of_error hparsed]
    exact ⟨hparsed, rfl⟩
  notCreated document path error hparsed houtput hcreate := by
    obtain ⟨hresult, hafter⟩ := emit_of_parsed hparsed
    rw [houtput, sent_file, FileSystem.writeFile_of_create_error hcreate] at hresult hafter
    exact ⟨hresult, hafter⟩
  written document path place created hparsed houtput hcreate hdevice := by
    obtain ⟨files, hwrite, hwritten⟩ :=
      FileSystem.writeFile_of_create hcreate hdevice document.size_render_ne_zero
    obtain ⟨hresult, hafter⟩ := emit_of_parsed hparsed
    rw [houtput, sent_file, hwrite] at hresult hafter
    rw [hafter]
    exact ⟨hresult, hwritten, rfl, rfl⟩
  toDevice document path place created device hparsed houtput hcreate hdevice := by
    have hwrite := FileSystem.writeFile_of_device hcreate hdevice document.size_render_ne_zero
    obtain ⟨hresult, hafter⟩ := emit_of_parsed hparsed
    rw [houtput, sent_file, hwrite] at hresult hafter
    exact ⟨hresult, hafter⟩
  printed document hparsed houtput := by
    obtain ⟨hresult, hafter⟩ := emit_of_parsed hparsed
    rw [houtput, sent_stdout world document.size_render_ne_zero] at hresult hafter
    exact ⟨hresult, hafter⟩

/-! ### The command

Around the run itself there are only the arguments in front and the report behind. Neither touches
the world, and the exit status is 0 exactly if there is a document. -/

/-- The command reports on what a run with its options comes to. -/
theorem run_of_parse (world : World) {threshold : Option Level} {arguments : List String}
    (h : Request.ofArguments arguments = .ok (.parse options)) :
    world.run threshold arguments =
      (Report.ofOutcome options threshold (world.emit options).1, (world.emit options).2) := by
  rw [World.run, Command.run, h]
  rfl

end World

/-- The exit status does not depend on what is reported. -/
theorem Report.status_ofOutcome (options : Options) (threshold : Option Level)
    (outcome : Outcome) :
    (ofOutcome options threshold outcome).status =
      match outcome.result with
      | .ok _ => .success
      | .error failure => failure.exitStatus := by
  obtain ⟨result, events⟩ := outcome
  cases result <;> rfl

/-- **A run writes the whole document of a valid program, or nothing at all**, and the command that
performs it exits with 0 exactly if it succeeds, and otherwise with the code of its failure. -/
theorem all_or_nothing (world : World) (options : Options) :
    AllOrNothing world options (world.emit options).1.result (world.emit options).2 ∧
      ∀ threshold arguments, Request.ofArguments arguments = .ok (.parse options) →
        (world.run threshold arguments).2 = (world.emit options).2 ∧
        ((world.run threshold arguments).1.status.code = 0 ↔
          ∃ document, (world.emit options).1.result = .ok document) ∧
        ∀ failure, (world.emit options).1.result = .error failure →
          (world.run threshold arguments).1.status = failure.exitStatus := by
  refine ⟨world.emit_allOrNothing options, fun threshold arguments harguments ↦ ?_⟩
  rw [World.run_of_parse world harguments, Report.status_ofOutcome]
  rcases (world.emit options).1.result with failure | document
  · refine ⟨rfl, ?_, ?_⟩
    · simp [ExitStatus.code_eq_zero_iff, failure.exitStatus_ne_success]
    · rintro _ ⟨⟩
      rfl
  · exact ⟨rfl, by simp [ExitStatus.code_eq_zero_iff], nofun⟩

end Command

end IppCode
