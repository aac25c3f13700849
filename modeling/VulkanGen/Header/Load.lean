import VulkanGen.Header
import VulkanGen.Host

/-!
# Headers in files

A header is read from a regular file, or through a link to one, and is called by
the last segment of its path.

* `LoadError.chain`  the texts of a failure, from the outside in
-/

namespace VulkanGen.Header

/-- Why a header was not read. -/
inductive LoadError where
  | missing (path : Path)
  | unreadable (error : ReadError)
  deriving DecidableEq, Repr

/-- The text of a failure. -/
def LoadError.message : LoadError → String
  | missing path => s!"header file not found: {path.text}"
  | unreadable error => s!"I/O error: {error.message}"

/-- The texts of a failure and of its cause. -/
def LoadError.chain : LoadError → List String
  | missing path => [(missing path).message]
  | unreadable error => [(unreadable error).message, error.message]

/-- What the header at a path is called. -/
def nameOf (path : Path) : String :=
  path.fileName?.getD path.text

variable {m : Type → Type} [Monad m] [Host m]

/-- Reads the header at a path. -/
def load (path : Path) : m (Except LoadError Header) := do
  if ← Host.isFile path then
    return ((← Host.readText path).map (⟨nameOf path, ·⟩)).mapError LoadError.unreadable
  else return .error (.missing path)

end VulkanGen.Header
