import VulkanGen.Host

/-!
# Disks

A disk is the model of a host: a tree of directories and files without links,
the staged files that have no place yet, and the actions that it refuses.  Files
are found by their location, the segments that lead to them; a path is walked
segment by segment, and each segment but the last has to be a directory.

All statements about a disk are statements about `node?`, which tells what stands
at a location.

* `node?_put`, `node?_erase`  what changing one location does to the others
* `locate_root`               the root is found on every disk
-/

namespace VulkanGen

/-- The segments that lead to a file or directory, the innermost first. -/
abbrev Location := List String

/-- What stands at a location. -/
inductive Node where
  | file (contents : ByteArray) (readOnly : Bool)
  | directory

/-- Whether a directory stands at a location. -/
def Node.isDirectory : Node → Bool
  | file _ _ => false
  | directory => true

/-- An action that a disk may refuse. -/
inductive DiskAction where
  | read (path : Path)
  | makeDirectories (path : Path)
  | stage (file : StagedFile)
  | fill (file : StagedFile)
  | move (file : StagedFile) (target : Path)
  | write (path : Path)
  | remove (path : Path)
  deriving DecidableEq

/-- A tree of directories and files, and the files that have no place yet. -/
structure Disk where
  /-- What stands below the root. -/
  entries : List (Location × Node)
  /-- The staged files by number. -/
  staged : List (Nat × ByteArray)
  /-- The number of the next staged file. -/
  next : Nat
  /-- The error of each action that the disk refuses. -/
  refuses : DiskAction → Option OsError

namespace Disk

/-- The disk that holds nothing and refuses nothing. -/
def empty : Disk := ⟨[], [], 0, fun _ => none⟩

/-- What stands at a location.  The root is always a directory. -/
def node? (d : Disk) (loc : Location) : Option Node :=
  if loc.isEmpty then some .directory else d.entries.lookup loc

/-- The disk with something else at a location. -/
def put (d : Disk) (loc : Location) (node : Node) : Disk :=
  { d with entries := (loc, node) :: d.entries.filter (·.1 != loc) }

/-- The disk with nothing at a location. -/
def erase (d : Disk) (loc : Location) : Disk :=
  { d with entries := d.entries.filter (·.1 != loc) }

theorem lookup_cons_eq (key : Location) (node : Node) (entries : List (Location × Node))
    (loc : Location) :
    ((key, node) :: entries).lookup loc = if loc = key then some node else entries.lookup loc := by
  rw [List.lookup_cons]
  by_cases h : loc = key
  · simp [h]
  · have hb : (loc == key) = false := by simpa using h
    simp only [hb, h, if_false]

theorem lookup_filter_ne (entries : List (Location × Node)) (loc other : Location) :
    (entries.filter (·.1 != loc)).lookup other =
      if other = loc then none else entries.lookup other := by
  induction entries with
  | nil => simp
  | cons e entries ih =>
    obtain ⟨key, node⟩ := e
    rw [List.filter_cons]
    by_cases hk : key = loc
    · have hb : (key != loc) = false := by simpa using hk
      simp only [hb, Bool.false_eq_true, if_false, ih, lookup_cons_eq]
      grind
    · have hb : (key != loc) = true := by simpa using hk
      simp only [hb, if_true, lookup_cons_eq, ih]
      grind

/-- A location that is put shows what was put there; the others are as before. -/
theorem node?_put (d : Disk) {loc : Location} (node : Node) (other : Location) (h : loc ≠ []) :
    (d.put loc node).node? other = if other = loc then some node else d.node? other := by
  by_cases ho : other = []
  · subst ho
    simp [node?, Ne.symm h]
  · simp only [node?, put, List.isEmpty_iff, ho, if_false, lookup_cons_eq, lookup_filter_ne]
    grind

/-- A location that is erased shows nothing; the others are as before. -/
theorem node?_erase (d : Disk) {loc : Location} (other : Location) (h : loc ≠ []) :
    (d.erase loc).node? other = if other = loc then none else d.node? other := by
  by_cases ho : other = []
  · subst ho
    simp [node?, Ne.symm h]
  · simp only [node?, erase, List.isEmpty_iff, ho, if_false, lookup_filter_ne]

/-- The longest name that a directory takes, in bytes. -/
def longestName : Nat := 255

/-- Goes from a location along one segment of a path. -/
def walk (d : Disk) (loc : Location) (segment : List Char) : Except OsError Location :=
  match d.node? loc with
  | none => .error .notFound
  | some (.file _ _) => .error .notDirectory
  | some .directory =>
    if segment == [] || segment == ['.'] then .ok loc
    else if segment == ['.', '.'] then .ok loc.tail
    else
      let name := String.ofList segment
      if name.utf8ByteSize > longestName then .error .nameTooLong else .ok (name :: loc)

/-- The longest path that can be looked up, in bytes. -/
def longestPath : Nat := 4095

/-- Refuses the paths that no disk looks up. -/
def checkPath (p : Path) : Except OsError Unit :=
  if p.text.toList.contains '\x00' then .error .nulInPath
  else if p.text.utf8ByteSize > longestPath then .error .nameTooLong
  else .ok ()

/-- The location that a path leads to, whether something stands there or not. -/
def locate (d : Disk) (p : Path) : Except OsError Location := do
  checkPath p
  let cs := p.text.toList
  if cs.isEmpty then .error .notFound else (Path.segments cs).foldlM (walk d) []

theorem locate_root (d : Disk) : d.locate ⟨"/"⟩ = .ok [] := by
  rfl

/-- What a path leads to. -/
def find? (d : Disk) (p : Path) : Option Node :=
  match d.locate p with
  | .ok loc => d.node? loc
  | .error _ => none

/-- Whether a path leads to a regular file. -/
def isFile (d : Disk) (p : Path) : Bool :=
  match d.find? p with
  | some (.file _ _) => true
  | _ => false

/-- Whether a path leads to a directory. -/
def isDirectory (d : Disk) (p : Path) : Bool :=
  (d.find? p).any Node.isDirectory

/-- What stands at a path. -/
def status (d : Disk) (p : Path) : FileStatus :=
  match d.find? p with
  | none => .absent
  | some (.file _ readOnly) => .regular readOnly
  | some .directory => .special

/-- The contents of a file. -/
def read (d : Disk) (p : Path) : Except OsError ByteArray := do
  if let some e := d.refuses (.read p) then throw e
  match d.node? (← d.locate p) with
  | none => .error .notFound
  | some .directory => .error .isDirectory
  | some (.file contents _) => .ok contents

/-- A path without the separators at its end. -/
def bare (p : Path) : Path :=
  ⟨.ofList (p.text.toList.reverse.dropWhile (· == '/')).reverse⟩

/-- Makes one directory. -/
def makeDirectory (d : Disk) (p : Path) : Except OsError Disk := do
  checkPath p
  let loc ← if (bare p).text.isEmpty then .ok [] else d.locate (bare p)
  match d.node? loc with
  | some _ => .error .alreadyExists
  | none => .ok (d.put loc .directory)

/-- Makes the first of these paths, each the parent of the one before it, after
the others as far as they are missing. -/
def makeFirst (d : Disk) : List Path → Except OsError Unit × Disk
  | [] => (.error (.other "failed to create whole tree"), d)
  | p :: parents =>
    match d.makeDirectory p with
    | .ok made => (.ok (), made)
    | .error .notFound =>
      match d.makeFirst parents with
      | (.error e, made) => (.error e, made)
      | (.ok _, made) =>
        match made.makeDirectory p with
        | .ok whole => (.ok (), whole)
        | .error e => (if made.isDirectory p then .ok () else .error e, made)
    | .error e => (if d.isDirectory p then .ok () else .error e, d)

/-- Makes a directory and those above it that are missing. -/
def makeDirectories (d : Disk) (p : Path) : Except OsError Unit × Disk :=
  match d.refuses (.makeDirectories p) with
  | some e => (.error e, d)
  | none => d.makeFirst p.ancestors

/-- Creates an empty staged file in a directory. -/
def stage (d : Disk) (directory : Path) : Except OsError StagedFile × Disk :=
  let file : StagedFile := ⟨directory, d.next⟩
  match d.refuses (.stage file), d.find? directory with
  | some e, _ => (.error e, d)
  | none, none => (.error .notFound, d)
  | none, some (.file _ _) => (.error .notDirectory, d)
  | none, some .directory =>
    (.ok file, { d with staged := (d.next, .empty) :: d.staged, next := d.next + 1 })

/-- Forgets a staged file. -/
def discard (d : Disk) (file : StagedFile) : Disk :=
  { d with staged := d.staged.filter (·.1 != file.number) }

/-- Gives a staged file its contents. -/
def fill (d : Disk) (file : StagedFile) (contents : ByteArray) : Except OsError Unit × Disk :=
  match d.refuses (.fill file) with
  | some e => (.error e, d)
  | none =>
    (.ok (), { d with
      staged := (file.number, contents) :: d.staged.filter (·.1 != file.number) })

/-- Moves a staged file to its place. -/
def move (d : Disk) (file : StagedFile) (target : Path) : Except OsError Unit × Disk :=
  match d.refuses (.move file target), d.staged.lookup file.number, d.locate target with
  | some e, _, _ => (.error e, d)
  | none, none, _ => (.error .notFound, d)
  | none, some _, .error .nulInPath => (.error .invalidArgument, d)
  | none, some _, .error e => (.error e, d)
  | none, some contents, .ok loc =>
    if (d.node? loc).any Node.isDirectory then (.error .isDirectory, d)
    else (.ok (), (d.put loc (.file contents false)).discard file)

/-- Writes a file in place. -/
def write (d : Disk) (p : Path) (contents : ByteArray) : Except OsError Unit × Disk :=
  match d.refuses (.write p), d.locate p with
  | some e, _ => (.error e, d)
  | none, .error e => (.error e, d)
  | none, .ok loc =>
    match d.node? loc with
    | some .directory => (.error .isDirectory, d)
    | some (.file _ readOnly) => (.ok (), d.put loc (.file contents readOnly))
    | none => (.ok (), d.put loc (.file contents false))

/-- Deletes a file. -/
def remove (d : Disk) (p : Path) : Except OsError Unit × Disk :=
  match d.refuses (.remove p), d.locate p with
  | some e, _ => (.error e, d)
  | none, .error e => (.error e, d)
  | none, .ok loc =>
    match d.node? loc with
    | none => (.error .notFound, d)
    | some .directory => (.error .isDirectory, d)
    | some (.file _ _) => (.ok (), d.erase loc)

/-- A command runs on a disk by changing it.  The clock of a disk stands still. -/
instance : Host (StateM Disk) where
  isFile p := return (← get).isFile p
  isPresent p := return ((← get).find? p).isSome
  status p := return (← get).status p
  read p := return (← get).read p
  makeDirectories p := fun d => d.makeDirectories p
  stage p := fun d => d.stage p
  fill file contents := fun d => d.fill file contents
  move file target := fun d => d.move file target
  discard file := modify (·.discard file)
  write p contents := fun d => d.write p contents
  remove p := fun d => d.remove p
  clock := return 0

end Disk

end VulkanGen
