import VulkanGen.Artifact.Delivery
import VulkanGen.Header.Load
import VulkanGen.Inspection
import VulkanGen.Manifest

/-!
# Failures of commands

A failure is shown on one line: what was being done, then what went wrong, and
so on down to the first cause.

* `Failure.message`  the line
-/

namespace VulkanGen

/-- Why a command failed. -/
inductive Failure where
  | manifest (error : Manifest.Error)
  /-- A command that works on all headers was given none. -/
  | noHeaders
  /-- A command that works on one header was given none. -/
  | noHeader
  | loading (path : Path) (error : Header.LoadError)
  | generation (error : Generation.Error)
  | table (error : FunctionTable.Error)
  | inspection (error : Inspection.Error)
  | unknownFormat (name : String)
  | delivery (error : DeliveryError)
  | alreadyExists (path : Path)
  | writing (path : Path) (error : OsError)
  deriving DecidableEq, Repr

namespace Failure

/-- The texts of a failure, from the outside in. -/
def chain : Failure → List String
  | manifest error => error.chain
  | noHeaders =>
    ["no headers given; pass --header or list them under [generator] in " ++ Manifest.fileName]
  | noHeader => ["no header given; pass --header or list one in " ++ Manifest.fileName]
  | loading path error => s!"loading {path.text}" :: error.chain
  | generation error => ["generating wrappers", error.message, error.causeMessage]
  | table error => ["building function table", error.message]
  | inspection error => error.chain
  | unknownFormat name => [s!"unknown format '{name}' (expected text or json)"]
  | delivery error => error.chain
  | alreadyExists path => [s!"'{path.text}' already exists"]
  | writing path error => [s!"writing {path.text}", error.message]

/-- The line that shows a failure. -/
def message (f : Failure) : String :=
  "error: " ++ ": ".intercalate f.chain ++ "\n"

end Failure

end VulkanGen
