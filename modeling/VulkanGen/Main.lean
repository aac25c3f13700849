import VulkanGen.Command.Outcome

/-!
# The program

The machine that the program runs on is a host like any other.  A staged file
is a hidden file in its directory, and a file counts as read-only if it cannot
be opened for writing.

* `main`  runs the command line that the program was started with
-/

namespace VulkanGen.Machine

/-- A system error by its number and its text. -/
def osError (code : UInt32) (text : String) : OsError :=
  match code with
  | 2 => .notFound
  | 17 => .alreadyExists
  | 20 => .notDirectory
  | 21 => .isDirectory
  | 22 => .invalidArgument
  | 36 => .nameTooLong
  | _ => .other s!"{text} (os error {code})"

/-- The system error behind an exception. -/
def ofException : IO.Error → OsError
  | .alreadyExists _ code text | .invalidArgument _ code text | .permissionDenied _ code text
  | .resourceExhausted _ code text | .inappropriateType _ code text | .noSuchThing _ code text
  | .noFileOrDirectory _ code text | .interrupted _ code text => osError code text
  | .otherError code text | .resourceBusy code text | .resourceVanished code text
  | .unsupportedOperation code text | .hardwareFault code text
  | .unsatisfiedConstraints code text | .illegalOperation code text | .protocolError code text
  | .timeExpired code text => osError code text
  | e => .other (toString e)

/-- The result of an action or the system error that stopped it. -/
def attempt {α : Type} (action : IO α) : IO (Except OsError α) := do
  try return .ok (← action)
  catch e => return .error (ofException e)

/-- Whether a path leads to something of a kind. -/
def leadsTo (kind : IO.FS.FileType → Bool) (path : Path) : IO Bool := do
  match ← attempt (System.mkFilePath [path.text]).metadata with
  | .ok found => return kind found.type
  | .error _ => return false

/-- What stands at a path. -/
def status (path : Path) : IO FileStatus := do
  match ← attempt (System.mkFilePath [path.text]).symlinkMetadata with
  | .error _ => return .absent
  | .ok found =>
    if found.type != .file then return .special
    else
      match ← attempt (IO.FS.Handle.mk path.text .append) with
      | .ok _ => return .regular false
      | .error _ => return .regular true

/-- Makes the first of these paths, each the parent of the one before it, after
the others as far as they are missing. -/
def makeFirst : List Path → IO (Except OsError Unit)
  | [] => return .error (.other "failed to create whole tree")
  | path :: parents => do
    let make : IO (Except OsError Unit) := do
      match ← attempt (IO.FS.createDir path.text) with
      | .ok _ => return .ok ()
      | .error e => if ← leadsTo (· == .dir) path then return .ok () else return .error e
    match ← make with
    | .error .notFound =>
      match ← makeFirst parents with
      | .error e => return .error e
      | .ok _ => make
    | result => return result

/-- Where a staged file lies. -/
def stagedPath (file : StagedFile) : String :=
  (file.directory.join ⟨s!".staged-{file.number}"⟩).text

instance : Host IO where
  isFile := leadsTo (· == .file)
  isPresent := leadsTo fun _ => true
  status := status
  read path := attempt (IO.FS.readBinFile path.text)
  makeDirectories path := makeFirst path.ancestors
  stage directory := attempt do
    let file := ⟨directory, ← IO.monoNanosNow⟩
    let _ ← IO.FS.Handle.mk (stagedPath file) .writeNew
    return file
  fill file contents := attempt (IO.FS.writeBinFile (stagedPath file) contents)
  move file target := attempt (IO.FS.rename (stagedPath file) target.text)
  discard file := do
    let _ ← attempt (IO.FS.removeFile (stagedPath file))
  write path contents := attempt (IO.FS.writeBinFile path.text contents)
  remove path := attempt (IO.FS.removeFile path.text)
  clock := IO.monoMsNow

end VulkanGen.Machine

/-- Runs the command line that the program was started with. -/
def main (arguments : List String) : IO UInt32 := do
  let directory ← IO.currentDir
  let outcome ← VulkanGen.CommandLine.execute ⟨directory.toString⟩ arguments
  IO.print outcome.standardOutput
  IO.eprint outcome.standardError
  return outcome.exitCode
