import VulkanGen.Generation
import VulkanGen.Host

/-!
# Delivering artifacts

Artifacts are delivered to a directory all together or not at all.  First every
destination is checked, then every artifact is staged, and only then are the
staged files moved to their places, one after the other.  Where a move fails, the
destinations that were reached before get back what stood there, the newest
first, and the staged files that are left are deleted.  Two artifacts may have
one destination, which then keeps the later one.

* `stageAll`  stages all artifacts or leaves no staged file
* `moveAll`   moves all staged files or restores every destination
* `deliver`   the whole delivery
-/

namespace VulkanGen

/-- Why artifacts were not delivered. -/
inductive DeliveryError where
  | creating (directory : Path) (error : OsError)
  /-- Something other than a regular file stands at a destination. -/
  | notRegular (destination : Path)
  /-- A destination may not be written. -/
  | readOnly (destination : Path)
  | staging (fileName : String) (directory : Path) (error : OsError)
  | writing (fileName : String) (error : OsError)
  | moving (destination : Path) (error : OsError)
  deriving DecidableEq, Repr

/-- The texts of a failure and of its cause. -/
def DeliveryError.chain : DeliveryError → List String
  | creating directory error => [s!"creating {directory.text}", error.message]
  | notRegular destination => [s!"unwritable output {destination.text}: not a regular file"]
  | readOnly destination => [s!"unwritable output {destination.text}: file is read-only"]
  | staging fileName directory error => [s!"staging {fileName} in {directory.text}", error.message]
  | writing fileName error => [s!"writing {fileName}", error.message]
  | moving destination error => [s!"unwritable output {destination.text}", error.message]

namespace Artifact

/-- Where an artifact goes. -/
def destination (directory : Path) (a : Artifact) : Path :=
  directory.join ⟨a.fileName⟩

variable {m : Type → Type} [Monad m] [Host m]

/-- Checks that each destination is free or holds a regular file that may be written. -/
def checkAll : List Path → m (Except DeliveryError Unit)
  | [] => return .ok ()
  | path :: rest => do
    match ← Host.status path with
    | .special => return .error (.notRegular path)
    | .regular true => return .error (.readOnly path)
    | .regular false | .absent => checkAll rest

/-- Stages one artifact, or leaves no staged file. -/
def stage (directory : Path) (a : Artifact) : m (Except DeliveryError StagedFile) := do
  match ← Host.stage directory with
  | .error e => return .error (.staging a.fileName directory e)
  | .ok file =>
    match ← Host.fill file a.contents.toUTF8 with
    | .error e =>
      Host.discard file
      return .error (.writing a.fileName e)
    | .ok _ => return .ok file

/-- Stages artifacts together with their destinations, or leaves no staged file. -/
def stageAll (directory : Path) :
    List Artifact → m (Except DeliveryError (List (StagedFile × Path)))
  | [] => return .ok []
  | a :: rest => do
    match ← a.stage directory with
    | .error e => return .error e
    | .ok file =>
      match ← stageAll directory rest with
      | .error e =>
        Host.discard file
        return .error e
      | .ok files => return .ok ((file, a.destination directory) :: files)

/-- Deletes staged files. -/
def discardAll : List (StagedFile × Path) → m Unit
  | [] => return
  | (file, _) :: rest => do
    Host.discard file
    discardAll rest

/-- Gives a destination its previous contents, or none if it had none. -/
def restore (destination : Path) (previous : Option ByteArray) : m Unit := do
  match previous with
  | some contents => discard <| Host.write destination contents
  | none => discard <| Host.remove destination

/-- Moves staged files to their places.  Where one move fails, the destinations
before it are restored from the last to the first. -/
def moveAll : List (StagedFile × Path) → m (Except DeliveryError Unit)
  | [] => return .ok ()
  | (file, destination) :: rest => do
    let previous := (← Host.read destination).toOption
    match ← Host.move file destination with
    | .error e =>
      discardAll ((file, destination) :: rest)
      return .error (.moving destination e)
    | .ok _ =>
      match ← moveAll rest with
      | .error e =>
        restore destination previous
        return .error e
      | .ok _ => return .ok ()

/-- Delivers artifacts to a directory, which is made if it is missing.  The result
is where they are now. -/
def deliver (directory : Path) (artifacts : List Artifact) :
    m (Except DeliveryError (List Path)) := do
  let destinations := artifacts.map (destination directory)
  match ← Host.makeDirectories directory with
  | .error e => return .error (.creating directory e)
  | .ok _ =>
    match ← checkAll destinations with
    | .error e => return .error e
    | .ok _ =>
      match ← stageAll directory artifacts with
      | .error e => return .error e
      | .ok files => return (← moveAll files).map fun _ => destinations

end Artifact

end VulkanGen
