import VulkanGen.Path

/-!
# Hosts

Commands read and write files through a host.  A host can be the real machine or
a value that models its disk; a command is written once for both.

New contents reach their place in three steps: a staged file is created inside
the target's directory, filled, and moved to its place in one step, which either
replaces what is there or changes nothing.

* `OsError.message`  the one place that words system errors
-/

namespace VulkanGen

/-- Why the system refused a file operation. -/
inductive OsError where
  | notFound
  | alreadyExists
  | notDirectory
  | isDirectory
  | invalidArgument
  | nameTooLong
  /-- The path holds a NUL character. -/
  | nulInPath
  | other (message : String)
  deriving DecidableEq, Repr

/-- The text of a system error. -/
def OsError.message : OsError → String
  | notFound => "No such file or directory (os error 2)"
  | alreadyExists => "File exists (os error 17)"
  | notDirectory => "Not a directory (os error 20)"
  | isDirectory => "Is a directory (os error 21)"
  | invalidArgument => "Invalid argument (os error 22)"
  | nameTooLong => "File name too long (os error 36)"
  | nulInPath => "file name contained an unexpected NUL byte"
  | other message => message

/-- Why a text could not be read. -/
inductive ReadError where
  | os (error : OsError)
  /-- The contents are not UTF-8. -/
  | notText
  deriving DecidableEq, Repr

/-- The text of a reading error. -/
def ReadError.message : ReadError → String
  | os error => error.message
  | notText => "stream did not contain valid UTF-8"

/-- What stands at a path itself, links not followed. -/
inductive FileStatus where
  | absent
  | regular (readOnly : Bool)
  | special
  deriving DecidableEq, Repr

/-- A file that has no place yet, numbered inside its directory. -/
structure StagedFile where
  directory : Path
  number : Nat
  deriving DecidableEq, Repr

/-- What a command needs from the machine it runs on. -/
class Host (m : Type → Type) where
  /-- Whether a path leads to a regular file. -/
  isFile : Path → m Bool
  /-- Whether a path leads to anything. -/
  isPresent : Path → m Bool
  /-- What stands at a path. -/
  status : Path → m FileStatus
  /-- The contents of a file. -/
  read : Path → m (Except OsError ByteArray)
  /-- Makes a directory and those above it that are missing. -/
  makeDirectories : Path → m (Except OsError Unit)
  /-- Creates an empty staged file in a directory. -/
  stage : Path → m (Except OsError StagedFile)
  /-- Gives a staged file its contents. -/
  fill : StagedFile → ByteArray → m (Except OsError Unit)
  /-- Moves a staged file to its place. -/
  move : StagedFile → Path → m (Except OsError Unit)
  /-- Deletes a staged file. -/
  discard : StagedFile → m Unit
  /-- Writes a file in place. -/
  write : Path → ByteArray → m (Except OsError Unit)
  /-- Deletes a file. -/
  remove : Path → m (Except OsError Unit)
  /-- The time in milliseconds. -/
  clock : m Nat

/-- The text of a file. -/
def Host.readText {m : Type → Type} [Monad m] [Host m] (path : Path) :
    m (Except ReadError String) := do
  match ← Host.read path with
  | .error e => return .error (.os e)
  | .ok bytes =>
    match String.fromUTF8? bytes with
    | some text => return .ok text
    | none => return .error .notText

end VulkanGen
