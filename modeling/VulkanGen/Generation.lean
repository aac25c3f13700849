import VulkanGen.Artifact.Table
import VulkanGen.Report

/-!
# A generation

A generation is everything that is made from a list of headers: four artifacts,
the wrappers and the function table they are written from, the diagnostics of all
headers, and a report.  Wrappers come from the first header alone; the function
table from all of them.

The function table is built first, so a missing bootstrap function is reported
before an ambiguous binding.

* `ofHeaders`  the generation of headers, or the error that forbids one
-/

namespace VulkanGen

/-- A file to write: its name inside the output directory, and its text. -/
structure Artifact where
  fileName : String
  contents : String
  deriving DecidableEq, Repr

/-- A diagnostic and the header it belongs to. -/
structure HeaderDiagnostic where
  header : String
  diagnostic : Diagnostic
  deriving DecidableEq

/-- Everything that is made from a list of headers. -/
structure Generation where
  declarations : Artifact
  implementations : Artifact
  tableHeader : Artifact
  tableSource : Artifact
  wrappers : List Wrapper
  table : FunctionTable
  diagnostics : List HeaderDiagnostic
  report : Report
  deriving DecidableEq

/-- Why nothing was generated. -/
inductive Generation.Error where
  | table (error : FunctionTable.Error)
  | binding (error : AmbiguousBinding)
  deriving DecidableEq, Repr

namespace Generation

/-- The text of an error. -/
def Error.message : Error → String
  | table error => s!"function table: {error.message}"
  | binding error => s!"classification failed: {error.message}"

/-- The text of what caused an error. -/
def Error.causeMessage : Error → String
  | table error => error.message
  | binding error => error.message

/-- The artifacts in the order in which they are written. -/
def artifacts (g : Generation) : List Artifact :=
  [g.declarations, g.implementations, g.tableHeader, g.tableSource]

/-- The diagnostics of headers, with the headers' names. -/
def diagnosticsOf (parsed : List ParsedHeader) : List HeaderDiagnostic :=
  parsed.flatMap fun h => h.diagnostics.map (⟨h.name, ·⟩)

/-- The prototypes that are wrapped: those of the first header. -/
def wrapped (parsed : List ParsedHeader) : List Prototype :=
  match parsed with
  | [] => []
  | core :: _ => core.prototypes

/-- The generation of wrappers and a table that are known. -/
def assemble (config : Config) (parsed : List ParsedHeader) (table : FunctionTable)
    (wrappers : List Wrapper) : Generation :=
  let n := config.naming
  let diagnostics := diagnosticsOf parsed
  { declarations := ⟨n.apiFile ++ ".h", Artifact.declarations config wrappers⟩
    implementations := ⟨n.apiFile ++ ".cpp", Artifact.implementations config wrappers⟩
    tableHeader := ⟨n.tableFile ++ ".h", Artifact.tableHeader config (parsed.map (·.name)) table⟩
    tableSource := ⟨n.tableFile ++ ".cpp", Artifact.tableSource config table⟩
    wrappers := wrappers
    table := table
    diagnostics := diagnostics
    report := Report.tally
      { headers := parsed.length
        functions := wrappers.length
        tableEntries := table.length
        groups := table.groups.length
        diagnostics := diagnostics.length }
      wrappers }

/-- The generation of headers, the first of which is the core header. -/
def ofHeaders (config : Config) (headers : List Header) : Except Error Generation := do
  let parsed := headers.map Header.parse
  let table ← (FunctionTable.build config.naming parsed).mapError Error.table
  let wrappers ← (Wrapper.ofPrototypes config (wrapped parsed)).mapError Error.binding
  return assemble config parsed table wrappers

end Generation

end VulkanGen
