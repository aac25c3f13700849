import VulkanGen.Host
import VulkanGen.Settings
import VulkanGen.Toml.Reader

/-!
# Manifests

A project keeps its settings in a manifest, a TOML document next to its headers.
Paths in a manifest are relative to the directory it was found in.  The manifest
that counts for a directory is the nearest one, in the directory itself or above
it; only a regular file is a manifest, and a nearer one that cannot be used is an
error and never passed over.  Where a list stands for a record, its items beyond
the last field are ignored.

* `ofText`  the manifest that a text spells
* `find`    the nearest manifest of a directory
-/

namespace VulkanGen

/-- The settings of a project. -/
structure Manifest where
  /-- The headers, the core header first. -/
  headers : List String := []
  /-- The output directory. -/
  output : Option String := none
  maxWidth : Option Nat := none
  naming : Naming := {}
  rules : Rules := {}
  deriving DecidableEq

namespace Manifest

/-- What a manifest is called. -/
def fileName : String := "vkwrap.toml"

/-- Why a text is not a manifest. -/
inductive Fault where
  /-- The text is not TOML; `line` is where that shows. -/
  | malformed (line : Nat)
  /-- A setting has a value of the wrong shape. -/
  | mismatch
  deriving DecidableEq, Repr

/-- Why there is no manifest where one is expected. -/
inductive Error where
  | reading (path : Path) (error : ReadError)
  | parsing (path : Path) (fault : Fault)
  deriving DecidableEq, Repr

/-- The text of a fault. -/
def Fault.message : Fault → String
  | malformed line => s!"TOML parse error at line {line}"
  | mismatch => "TOML parse error: unexpected type of a value"

/-- The texts of an error and of its cause. -/
def Error.chain : Error → List String
  | reading path error => [s!"reading {path.text}", error.message]
  | parsing path fault => [s!"parsing {path.text}", fault.message]

open Document in
/-- Reads the settings in a manifest's own section, over the defaults. -/
def ofSection? (doc : Document) : Option Manifest := do
  let fs ← doc.fields? .ignored ["headers", "output", "max_width"]
  return {
    headers := ← field fs "headers" texts? []
    output := ← field fs "output" (fun d => d.text?.map some) none
    maxWidth := ← field fs "max_width" (fun d => d.natural?.map some) none }

open Document in
/-- Reads a manifest. -/
def ofDocument? (doc : Document) : Option Manifest := do
  let fs ← doc.fields? .ignored ["generator", "naming", "rules"]
  let m ← field fs "generator" ofSection? {}
  return { m with
    naming := ← field fs "naming" (Naming.ofDocument? .ignored) {}
    rules := ← field fs "rules" (Rules.ofDocument? .ignored) {} }

/-- The manifest that a text spells. -/
def ofText (text : String) : Except Fault Manifest :=
  match Toml.read text with
  | .error line => .error (.malformed line)
  | .ok doc =>
    match ofDocument? doc with
    | some m => .ok m
    | none => .error .mismatch

/-- The configuration of a manifest; a width that is given wins over its own. -/
def toConfig (m : Manifest) (maxWidth : Option Nat) : Config :=
  { maxWidth := (maxWidth.or m.maxWidth).getD ({} : Config).maxWidth
    naming := m.naming
    rules := m.rules }

/-- The paths of the headers in a project directory. -/
def headerPaths (m : Manifest) (project : Path) : List Path :=
  m.headers.map fun header => project.join ⟨header⟩

/-- The output directory in a project directory. -/
def outputDirectory? (m : Manifest) (project : Path) : Option Path :=
  m.output.map fun output => project.join ⟨output⟩

/-- A manifest to start from. -/
def template : String :=
  let n : Naming := {}
  "[generator]\n" ++
  "headers = [\"include/vulkan/vulkan_core.h\"]\n" ++
  "output = \"generated\"\n" ++
  s!"max_width = {({} : Config).maxWidth}\n" ++
  "\n[naming]\n" ++
  s!"api_file = \"{n.apiFile}\"\n" ++
  s!"table_file = \"{n.tableFile}\"\n" ++
  s!"namespace = \"{n.apiNamespace}\"\n" ++
  s!"table_namespace = \"{n.tableNamespace}\"\n" ++
  s!"guard_prefix = \"{n.guardPrefix}\"\n" ++
  "\n[rules]\n" ++
  "device_binding = true\n" ++
  "instance_binding = true\n" ++
  "count_query = true\n" ++
  "command_buffer = true\n"

variable {m : Type → Type} [Monad m] [Host m]

/-- The manifest at a path. -/
def load (path : Path) : m (Except Error Manifest) := do
  match ← Host.readText path with
  | .error e => return .error (.reading path e)
  | .ok text => return (ofText text).mapError (Error.parsing path)

/-- The first manifest in these directories, and the directory that holds it. -/
def findFirst : List Path → m (Except Error (Option (Manifest × Path)))
  | [] => return .ok none
  | directory :: others => do
    let candidate := directory.join ⟨fileName⟩
    if ← Host.isFile candidate then
      return (← load candidate).map fun manifest => some (manifest, directory)
    else findFirst others

/-- The nearest manifest of a directory, and the directory that holds it. -/
def find (start : Path) : m (Except Error (Option (Manifest × Path))) :=
  findFirst start.ancestors

end Manifest

end VulkanGen
