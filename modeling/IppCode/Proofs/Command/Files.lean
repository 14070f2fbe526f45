import IppCode.FileSystem

/-!
# Writing a file

What is written to a file is read back by the same path, and nothing else changes
(`FileSystem.writeFile_of_create`).

A path is followed step by step, and every step depends on what is there. So the way to a file has
to be shown to be the same before and after it is written: `FileSystem.Keeps` says that directories
stay and that nothing disappears, which is all that a step asks for (`FileSystem.Keeps.enter`).
Creating a file and writing to it keep everything, since a file is never put in the place of a
directory.

A write may not come to a file at all. The last step may lead to a device, which takes everything or
nothing and is never changed (`FileSystem.writeFile_of_device`), or nowhere, and then nothing is
created (`FileSystem.writeFile_of_create_error`). The three cases are all there are, and what a
command leaves behind is put together of them.

Nothing has to be known of the path itself. It may go up and down, and it may name its place in a
way that another path does not; two paths are never compared, and the file that is read back is
found by following the same text again.
-/

namespace IppCode

/-- A sequence of two steps succeeds if the first does and then the second. -/
theorem exceptBind_eq_ok_iff {ε α β : Type} {first : Except ε α} {second : α → Except ε β}
    {b : β} : (first >>= second) = .ok b ↔ ∃ a, first = .ok a ∧ second a = .ok b := by
  rcases first with error | a
  · constructor
    · rintro ⟨⟩
    · rintro ⟨a, ⟨⟩, -⟩
  · constructor
    · exact fun h ↦ ⟨a, rfl, h⟩
    · rintro ⟨a, ⟨⟩, h⟩
      exact h

theorem mapError_eq_ok_iff {ε ε' α : Type} {result : Except ε α} {f : ε → ε'} {a : α} :
    result.mapError f = .ok a ↔ result = .ok a := by
  rcases result with error | a'
  · exact ⟨nofun, nofun⟩
  · exact ⟨fun h ↦ congrArg Except.ok (Except.ok.inj h),
      fun h ↦ congrArg Except.ok (Except.ok.inj h)⟩

/-! ### Sinks that take everything at once

An open file takes all bytes with the first offer, or refuses all of them. So sending to it is one
write and a flush, and none of the repeated offers of a limited sink is needed. -/

namespace Sink

variable {σ : Type} {sink : Sink σ} {bytes : ByteArray} {state after : σ}

/-- What is taken at once is flushed at once. -/
theorem send_of_write (hbytes : bytes.size ≠ 0)
    (hwrite : sink.write bytes state = (.ok bytes.size, after)) :
    sink.send bytes state = sink.flush after := by
  obtain ⟨n, hn⟩ := Nat.exists_eq_succ_of_ne_zero hbytes
  have hrest : (bytes.extract (n + 1) (n + 1)).size = 0 := by
    rw [ByteArray.size_extract]
    omega
  have hall : sink.writeAll bytes state = (.ok (), after) := by
    rw [writeAll, if_neg hbytes, hwrite, hn]
    show sink.writeAll (bytes.extract (n + 1) (n + 1)) after = _
    rw [writeAll, if_pos hrest]
  rw [send, hall]

/-- An error that is no interruption ends the sending. -/
theorem send_of_write_error {error : TransferError} (hbytes : bytes.size ≠ 0)
    (herror : error.isInterruption = false)
    (hwrite : sink.write bytes state = (.error error, after)) :
    sink.send bytes state = (.error error, after) := by
  have hall : sink.writeAll bytes state = (.error error, after) := by
    rw [writeAll, if_neg hbytes, hwrite]
    exact if_neg (by simp [herror])
  rw [send, hall]

end Sink

/-- What a device makes of all that is written to it. -/
def Device.taken : Device → Except TransferError Unit
  | null => .ok ()
  | full => .error (.os .noSpace)

namespace FileSystem

variable {fs fs' : FileSystem}

/-! ### What a step asks for

A step looks at two nodes, the one that it leaves and the one that it enters, and only at whether
they are there and are directories. Whatever changes nothing about that changes no step. -/

theorem requireDirectory_eq_ok_iff {path : Path} {u : Unit} :
    fs.requireDirectory path = .ok u ↔ fs.node? path = some .directory := by
  rw [requireDirectory]
  rcases fs.node? path with - | (- | contents | device) <;> simp

/-- Where a step leads. -/
theorem enter_eq_ok_iff {path next : Path} {name : String} :
    fs.enter path name = .ok next ↔ fs.node? path = some .directory ∧
      (name = "." ∧ next = path ∨
        name = ".." ∧ next = path.dropLast ∨
        name ≠ "." ∧ name ≠ ".." ∧ name.utf8ByteSize ≤ longestName ∧
          (fs.node? (path ++ [name])).isSome = true ∧ next = path ++ [name]) := by
  rw [enter, exceptBind_eq_ok_iff]
  simp only [requireDirectory_eq_ok_iff, exists_const]
  have hreturn : ∀ place : Path, (return place : Except OsError Path) = .ok next ↔ next = place :=
    fun place ↦ ⟨fun h ↦ (Except.ok.inj h).symm, fun h ↦ congrArg Except.ok h.symm⟩
  refine and_congr_right fun _ ↦ ?_
  by_cases hdot : name = "."
  · simp [hdot, hreturn]
  by_cases hdots : name = ".."
  · simp [hdots, hreturn]
  by_cases hlong : longestName < name.utf8ByteSize
  · simp [hdot, hdots, hlong, Nat.not_le.2 hlong]
  by_cases hnode : (fs.node? (path ++ [name])).isSome = true
  · simp only [hdot, hdots, hlong, hnode, hreturn, Nat.not_lt.1 hlong, if_true, if_false, ne_eq,
      not_false_eq_true, false_and, true_and, false_or]
  · simp [hdot, hdots, hlong, hnode]

/-- Directories stay, and nothing disappears. -/
structure Keeps (fs fs' : FileSystem) : Prop where
  /-- Relative routes start from the same place, … -/
  workingDirectory : fs'.workingDirectory = fs.workingDirectory
  /-- … every directory on the way is still one, … -/
  directory : ∀ path, fs.node? path = some .directory → fs'.node? path = some .directory
  /-- … and whatever was there can still be entered. -/
  isSome : ∀ path, (fs.node? path).isSome = true → (fs'.node? path).isSome = true

theorem Keeps.trans {fs'' : FileSystem} (h : Keeps fs fs') (h' : Keeps fs' fs'') :
    Keeps fs fs'' where
  workingDirectory := h'.workingDirectory.trans h.workingDirectory
  directory path hpath := h'.directory path (h.directory path hpath)
  isSome path hpath := h'.isSome path (h.isSome path hpath)

/-- A step asks for a directory to start from and for something to lead to, and both stay. -/
theorem Keeps.enter {path next : Path} {name : String} (h : Keeps fs fs')
    (henter : fs.enter path name = .ok next) : fs'.enter path name = .ok next := by
  rw [enter_eq_ok_iff] at henter ⊢
  obtain ⟨hpath, hdot | hdots | ⟨hdot, hdots, hlong, hnode, hnext⟩⟩ := henter
  · exact ⟨h.directory path hpath, .inl hdot⟩
  · exact ⟨h.directory path hpath, .inr (.inl hdots)⟩
  · exact ⟨h.directory path hpath, .inr (.inr ⟨hdot, hdots, hlong, h.isSome _ hnode, hnext⟩)⟩

/-- A way that leads somewhere still leads there. -/
theorem Keeps.follow {start place : Path} {steps : List String} (h : Keeps fs fs')
    (hfollow : fs.follow start steps = .ok place) : fs'.follow start steps = .ok place := by
  induction steps generalizing start with
  | nil => exact hfollow
  | cons name steps ih =>
    rw [FileSystem.follow, List.foldlM_cons, exceptBind_eq_ok_iff] at hfollow ⊢
    obtain ⟨next, henter, hnext⟩ := hfollow
    exact ⟨next, h.enter henter, ih hnext⟩

/-- What is not a directory is never the root. -/
theorem ne_nil_of_node?_ne {path : Path} (h : fs.node? path ≠ some .directory) : path ≠ [] := by
  rintro rfl
  exact h fs.node?_root

/-- A node in the place of anything but a directory keeps everything. -/
theorem keeps_put {path : Path} (h : fs.node? path ≠ some .directory) (node : Node) :
    Keeps fs (fs.put path node) where
  workingDirectory := rfl
  directory other hother := by
    rwa [node?_put_of_ne fs (fun heq : other = path ↦ h (heq ▸ hother))]
  isSome other hother := by
    by_cases heq : other = path
    · rw [heq, node?_put_self fs (ne_nil_of_node?_ne h)]
      rfl
    · rwa [node?_put_of_ne fs heq]

/-! ### The way to a file

All that a route says is used up when its last directory is reached: from there on the file has a
place, and what happens to it happens at the place. -/

/-- The route leads to the file called `name` in `directory`, whether or not there is one. -/
structure LeadsTo (fs : FileSystem) (route : Route) (directory : Path) (name : String) : Prop where
  /-- The last step is the name of the file. -/
  steps : route.steps.getLast? = some name
  /-- The steps before it lead to the directory. -/
  follows : fs.follow (fs.origin route) route.steps.dropLast = .ok directory
  /-- What they lead to is a directory indeed. -/
  isDirectory : fs.node? directory = some .directory
  /-- Names that are steps of their own are no files. -/
  ne_dot : name ≠ "."
  ne_dots : name ≠ ".."
  /-- A file can have the name. -/
  fits : name.utf8ByteSize ≤ longestName
  /-- No slash follows the name. -/
  trailingSlash : route.trailingSlash = false

namespace LeadsTo

variable {route : Route} {directory : Path} {name : String}

/-- The way to a file stays what it is. -/
theorem keeps (h : fs.LeadsTo route directory name) (hkeeps : Keeps fs fs') :
    fs'.LeadsTo route directory name where
  steps := h.steps
  follows := by
    rw [origin, hkeeps.workingDirectory]
    exact hkeeps.follow h.follows
  isDirectory := hkeeps.directory _ h.isDirectory
  ne_dot := h.ne_dot
  ne_dots := h.ne_dots
  fits := h.fits
  trailingSlash := h.trailingSlash

/-- A file that the route leads to is the one that is read. -/
theorem readRoute_eq_ok (h : fs.LeadsTo route directory name) {contents : ByteArray}
    (hfile : fs.node? (directory ++ [name]) = some (.file contents)) :
    fs.readRoute route = .ok contents := by
  have henter : fs.enter directory name = .ok (directory ++ [name]) :=
    enter_eq_ok_iff.2 ⟨h.isDirectory, .inr (.inr ⟨h.ne_dot, h.ne_dots, h.fits,
      by rw [hfile]; rfl, rfl⟩)⟩
  have hfollow : fs.follow (fs.origin route) route.steps = .ok (directory ++ [name]) := by
    obtain ⟨_, hsteps⟩ := List.getLast?_eq_some_iff.1 h.steps
    have hdrop := h.follows
    rw [hsteps, List.dropLast_concat] at hdrop
    rw [hsteps, follow, List.foldlM_append, exceptBind_eq_ok_iff]
    refine ⟨directory, hdrop, ?_⟩
    rw [List.foldlM_cons, henter]
    rfl
  rw [readRoute, exceptBind_eq_ok_iff]
  refine ⟨directory ++ [name], hfollow, ?_⟩
  simp only [hfile, h.trailingSlash]
  rfl

end LeadsTo

/-! ### Creating a file

Of the four kinds of things that can be at the place, two are left as they are, a directory by a
refusal and a device by a success. The other two are an empty file from then on. -/

/-- What creating a file at a place makes of the file system. -/
inductive Makes (fs : FileSystem) (place : Path) : FileSystem → Prop
  /-- A device stays as it is. -/
  | device (device : Device) (h : fs.node? place = some (.device device)) : Makes fs place fs
  /-- An empty file takes the place of a file or of nothing. -/
  | file (hdirectory : fs.node? place ≠ some .directory)
      (hdevice : ∀ device, fs.node? place ≠ some (.device device)) :
    Makes fs place (fs.put place (.file ByteArray.empty))

/-- A file is created in a directory that is there, under a name that fits. -/
theorem makes_of_createIn {directory place : Path} {name : String} {trailingSlash : Bool}
    {created : FileSystem} (h : fs.createIn directory name trailingSlash = .ok (place, created)) :
    fs.node? directory = some .directory ∧ (name ≠ "." ∧ name ≠ ".." ∧ trailingSlash = false) ∧
      name.utf8ByteSize ≤ longestName ∧ place = directory ++ [name] ∧ Makes fs place created := by
  rw [createIn, exceptBind_eq_ok_iff] at h
  obtain ⟨_, hdirectory, h⟩ := h
  rw [requireDirectory_eq_ok_iff] at hdirectory
  split at h
  · cases h
  rename_i hproper
  split at h
  · cases h
  rename_i hfits
  refine ⟨hdirectory, by simpa [not_or] using hproper, Nat.not_lt.1 hfits, ?_⟩
  dsimp only at h
  split at h <;> rename_i hnode <;> cases h
  · exact ⟨rfl, .device _ hnode⟩
  · exact ⟨rfl, .file (by simp [hnode]) (by simp [hnode])⟩
  · exact ⟨rfl, .file (by simp [hnode]) (by simp [hnode])⟩

/-- A file is created in the place that its path leads to. -/
theorem makes_of_create {text : String} {place : Path} {created : FileSystem}
    (h : fs.create text = .ok (place, created)) :
    ∃ route directory name, Route.parse text = .ok route ∧ fs.LeadsTo route directory name ∧
      place = directory ++ [name] ∧ Makes fs place created := by
  rw [create, exceptBind_eq_ok_iff] at h
  obtain ⟨route, hroute, h⟩ := h
  rw [mapError_eq_ok_iff, createRoute] at h
  split at h
  · cases h
  rename_i name hname
  obtain ⟨directory, hfollow, h⟩ := exceptBind_eq_ok_iff.1 h
  obtain ⟨hdirectory, ⟨hdot, hdots, hslash⟩, hfits, hplace, hmakes⟩ := makes_of_createIn h
  exact ⟨route, directory, name, hroute,
    ⟨hname, hfollow, hdirectory, hdot, hdots, hfits, hslash⟩, hplace, hmakes⟩

/-! ### Writing a file

Here the parts come together. The route is followed twice, once to create the file and once to read
it, and the file systems that it is followed in are not the same. -/

/-- The path leads to a file at the place, which holds the bytes, and apart from this file nothing
has changed. -/
structure Written (fs : FileSystem) (text : String) (place : Path) (bytes : ByteArray)
    (after : FileSystem) : Prop where
  /-- The same path is read, so that nothing has to be known of the place in order to say what the
  file holds. -/
  read : after.readFile text = .ok bytes
  /-- At the place there is a file, with these bytes in it. -/
  node : after.node? place = some (.file bytes)
  /-- No other path leads to anything else than before. -/
  others : ∀ other, other ≠ place → after.node? other = fs.node? other
  /-- Relative paths mean what they meant before. -/
  workingDirectory : after.workingDirectory = fs.workingDirectory

section Write

variable {text : String} {place : Path} {created : FileSystem} {bytes : ByteArray}

/-- What is written to a file goes to its end. -/
theorem write_fileSink_of_file (bytes : ByteArray) {contents : ByteArray}
    (h : fs.node? place = some (.file contents)) :
    (fileSink place).write bytes fs =
      (.ok bytes.size, fs.put place (.file (contents ++ bytes))) := by
  simp only [fileSink, h]

/-- A device takes everything or nothing, and is never changed. -/
theorem write_fileSink_of_device (bytes : ByteArray) {device : Device}
    (h : fs.node? place = some (.device device)) :
    (fileSink place).write bytes fs = (device.taken.map fun _ ↦ bytes.size, fs) := by
  cases device <;> simp only [fileSink, h] <;> rfl

/-- The file in the place that a path leads to is the one that is read by it, whatever stood there
before. -/
theorem LeadsTo.written {route : Route} {directory : Path} {name : String}
    (h : fs.LeadsTo route directory name) (before : Node) (hroute : Route.parse text = .ok route)
    (hdirectory : fs.node? (directory ++ [name]) ≠ some .directory)
    (hbefore : before ≠ .directory) :
    fs.Written text (directory ++ [name]) bytes
      ((fs.put (directory ++ [name]) before).put (directory ++ [name]) (.file bytes)) := by
  have hne := ne_nil_of_node?_ne hdirectory
  have hnode : (fs.put (directory ++ [name]) before).node? (directory ++ [name]) = some before :=
    node?_put_self fs hne before
  have hfile := node?_put_self (fs.put (directory ++ [name]) before) hne (.file bytes)
  have hstill : (fs.put (directory ++ [name]) before).node? (directory ++ [name]) ≠
      some .directory := by
    rw [hnode]
    exact fun heq ↦ hbefore (Option.some.inj heq)
  -- the file is made first and written then; neither blocks the way to it
  have hkeeps := (keeps_put hdirectory before).trans (keeps_put hstill (.file bytes))
  refine ⟨?_, hfile, fun other hother ↦ ?_, rfl⟩
  · rw [readFile, hroute]
    exact mapError_eq_ok_iff.2 ((h.keeps hkeeps).readRoute_eq_ok hfile)
  · rw [node?_put_of_ne _ hother, node?_put_of_ne fs hother]

/-- **What is written to a file is read back**, and nothing else changes. -/
theorem writeFile_of_create (h : fs.create text = .ok (place, created))
    (hdevice : ∀ device, fs.node? place ≠ some (.device device)) (hbytes : bytes.size ≠ 0) :
    ∃ after, fs.writeFile text bytes = (.ok (), after) ∧ fs.Written text place bytes after := by
  obtain ⟨route, directory, name, hroute, hleads, rfl, hmakes⟩ := makes_of_create h
  obtain ⟨device, hnode⟩ | ⟨hdirectory, -⟩ := hmakes
  · exact absurd hnode (hdevice device)
  · have hempty := node?_put_self fs (ne_nil_of_node?_ne hdirectory) (.file ByteArray.empty)
    have hwrite := write_fileSink_of_file bytes hempty
    rw [ByteArray.empty_append] at hwrite
    refine ⟨_, ?_, hleads.written (.file ByteArray.empty) hroute hdirectory nofun⟩
    rw [writeFile, h]
    exact Sink.send_of_write hbytes hwrite

/-- A device takes everything or nothing, and nothing changes. -/
theorem writeFile_of_device {device : Device} (h : fs.create text = .ok (place, created))
    (hdevice : fs.node? place = some (.device device)) (hbytes : bytes.size ≠ 0) :
    fs.writeFile text bytes = (device.taken, fs) := by
  obtain ⟨route, directory, name, hroute, hleads, rfl, hmakes⟩ := makes_of_create h
  obtain ⟨-, -⟩ | ⟨-, hnone⟩ := hmakes
  · have hwrite := write_fileSink_of_device bytes hdevice
    rw [writeFile, h]
    cases device with
    | null => exact Sink.send_of_write hbytes hwrite
    | full => exact Sink.send_of_write_error hbytes (by decide) hwrite
  · exact absurd hdevice (hnone device)

/-- Where no file can be created, nothing changes. -/
theorem writeFile_of_create_error {error : TransferError} (h : fs.create text = .error error) :
    fs.writeFile text bytes = (.error error, fs) := by
  rw [writeFile, h]

end Write

end FileSystem

end IppCode
