import VulkanGen.Command.Failure
import VulkanGen.FunctionTable.Listing
import VulkanGen.OutputFormat

/-!
# Commands

A command reads headers and settings, and shows a result or writes files.  Paths
given on the command line are relative to the working directory; those in a
manifest are relative to the project, the directory of the manifest.  Headers
given on the command line replace those of the manifest.  A command that fails
shows nothing but its failure.

* `Command.run`  what a command does, and the text it shows
-/

namespace VulkanGen

/-- What is asked for on a project, as it was given. -/
inductive ProjectCommand where
  /-- Writes the generated sources. -/
  | generate (headers : List String) (output : Option String) (maxWidth : Option Nat)
  /-- Shows the prototypes of one header beside their wrappers. -/
  | inspect (header function format : Option String)
  /-- Shows the groups of the function table. -/
  | groups (headers : List String) (format : Option String)
  deriving DecidableEq, Repr

/-- What is asked for, as it was given. -/
inductive Command where
  /-- Works on the project of a manifest, the nearest one if none is given. -/
  | onProject (manifest : Option String) (command : ProjectCommand)
  /-- Writes a manifest to start from. -/
  | init
  deriving DecidableEq, Repr

/-- The settings of a project and the directory they are relative to. -/
structure Project where
  manifest : Manifest
  directory : Path
  deriving DecidableEq

namespace Project

/-- Where the generated sources go if nothing else is said. -/
def defaultOutput : Path := ⟨"generated"⟩

/-- The headers of a project, or the given ones, relative to the working directory. -/
def headers (p : Project) (workingDirectory : Path) (given : List String) : List Path :=
  if given.isEmpty then p.manifest.headerPaths p.directory
  else given.map fun header => workingDirectory.join ⟨header⟩

/-- Where the generated sources go: the given directory first, then the manifest's. -/
def output (p : Project) (workingDirectory : Path) : Option String → Path
  | some directory => workingDirectory.join ⟨directory⟩
  | none => (p.manifest.outputDirectory? p.directory).getD (p.directory.join defaultOutput)

variable {m : Type → Type} [Monad m] [Host m]

/-- The project of the manifest at a path that is given, or else of the nearest
manifest, or else a project without settings in the working directory. -/
def load (workingDirectory : Path) : Option String → m (Except Manifest.Error Project)
  | some given => do
    let path := workingDirectory.join ⟨given⟩
    return (← Manifest.load path).map (⟨·, path.parent?.getD workingDirectory⟩)
  | none => do
    return (← Manifest.find workingDirectory).map fun
      | some (manifest, directory) => ⟨manifest, directory⟩
      | none => ⟨{}, workingDirectory⟩

end Project

namespace Command

variable {m : Type → Type} [Monad m] [Host m]

/-- Reads headers until one fails. -/
def loadEach : List Path → m (Except Failure (List Header))
  | [] => return .ok []
  | path :: rest => do
    match ← Header.load path with
    | .error e => return .error (.loading path e)
    | .ok header => return (← loadEach rest).map (header :: ·)

/-- Reads headers, of which there has to be one. -/
def loadHeaders (paths : List Path) : m (Except Failure (List Header)) :=
  if paths.isEmpty then return .error .noHeaders else loadEach paths

/-- What is shown after a delivery. -/
def deliveryText (directory : Path) (delivered : List Path) (report : Report) : String :=
  s!"Generated {delivered.length} files in {directory.text}\n" ++
  String.join (delivered.map fun path => s!"  {path.text}\n") ++
  "\n" ++
  report.render

/-- Generates the sources of headers into a directory. -/
def runGenerate (headers : List Path) (directory : Path) (config : Config) :
    m (Except Failure String) := do
  match ← loadHeaders headers with
  | .error e => return .error e
  | .ok headers =>
    let started ← Host.clock
    match Generation.ofHeaders config headers with
    | .error e => return .error (.generation e)
    | .ok g =>
      let finished ← Host.clock
      match ← Artifact.deliver directory g.artifacts with
      | .error e => return .error (.delivery e)
      | .ok delivered =>
        let report := { g.report with milliseconds := finished - started }
        return .ok (deliveryText directory delivered report)

/-- A result in the format of a name; text if no name is given. -/
def present (format : Option String) (text : String) (json : Json) : Except Failure String :=
  match format with
  | none => .ok (OutputFormat.text.render text json)
  | some name =>
    match OutputFormat.ofName? name with
    | some f => .ok (f.render text json)
    | none => .error (.unknownFormat name)

/-- Shows an inspection of the header at a path. -/
def runInspect (path : Path) (function format : Option String) (config : Config) :
    m (Except Failure String) := do
  match ← Header.load path with
  | .error e => return .error (.loading path e)
  | .ok header =>
    match Inspection.ofHeader config header.parse function with
    | .error e => return .error (.inspection e)
    | .ok entries =>
      return present format (String.join (entries.map (·.render)))
        (.list (entries.map (·.toJson)))

/-- Shows the groups of the function table of headers. -/
def runGroups (headers : List Path) (format : Option String) (config : Config) :
    m (Except Failure String) := do
  match ← loadHeaders headers with
  | .error e => return .error e
  | .ok headers =>
    match FunctionTable.build config.naming (headers.map Header.parse) with
    | .error e => return .error (.table e)
    | .ok table => return present format table.listing table.toJson

/-- Writes a manifest to start from, unless there is one. -/
def runInit (directory : Path) : m (Except Failure String) := do
  let path := directory.join ⟨Manifest.fileName⟩
  if ← Host.isPresent path then return .error (.alreadyExists path)
  else
    match ← Host.write path Manifest.template.toUTF8 with
    | .error e => return .error (.writing path e)
    | .ok _ =>
      return .ok (s!"Created {path.text}\n" ++
        "  edit [generator].headers to point at your vulkan_core.h\n")

/-- Runs a command on a project. -/
def runOn (workingDirectory : Path) (project : Project) :
    ProjectCommand → m (Except Failure String)
  | .generate headers output maxWidth =>
    runGenerate (project.headers workingDirectory headers)
      (project.output workingDirectory output) (project.manifest.toConfig maxWidth)
  | .inspect header function format =>
    match project.headers workingDirectory header.toList with
    | [] => return .error .noHeader
    | path :: _ => runInspect path function format (project.manifest.toConfig none)
  | .groups headers format =>
    runGroups (project.headers workingDirectory headers) format (project.manifest.toConfig none)

/-- Runs a command in a working directory.  The result is the text to show. -/
def run (workingDirectory : Path) : Command → m (Except Failure String)
  | init => runInit workingDirectory
  | onProject manifest command => do
    match ← Project.load workingDirectory manifest with
    | .error e => return .error (.manifest e)
    | .ok project => runOn workingDirectory project command

end Command

end VulkanGen
