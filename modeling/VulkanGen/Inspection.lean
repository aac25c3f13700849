import VulkanGen.Header
import VulkanGen.Json
import VulkanGen.Wrapper.Code

/-!
# Inspecting a header

An inspection sets each prototype of a header beside its wrapper: the labels of
the rules that shaped it and the signature that callers see.  It shows all
prototypes of a header or the first one of a name.

* `ofHeader`  the inspection of a header
-/

namespace VulkanGen

/-- A prototype beside its wrapper. -/
structure Inspection where
  name : String
  line : Nat
  labels : List String
  declared : String
  wrapper : String
  deriving DecidableEq, Repr

/-- Why a header cannot be inspected. -/
inductive Inspection.Error where
  /-- The header declares no function of that name. -/
  | unknownFunction (function header : String)
  | binding (header : String) (error : AmbiguousBinding)
  deriving DecidableEq, Repr

namespace Inspection

/-- The texts of an error and of its cause. -/
def Error.chain : Error → List String
  | unknownFunction function header => [s!"no declaration named '{function}' in {header}"]
  | binding header error => [s!"classifying {header}", error.message]

/-- A prototype beside a wrapper; a recorder method is shown with its class. -/
def ofWrapper (naming : Naming) (p : Prototype) (w : Wrapper) : Inspection where
  name := p.name
  line := p.line
  labels := w.labels
  declared := p.render
  wrapper :=
    if w.isRecorderMethod then s!"{naming.recorderClass}::{w.signature naming} const"
    else w.signature naming

/-- The prototypes of a header that are asked for. -/
def select (h : ParsedHeader) (function : Option String) : Except Error (List Prototype) :=
  match function with
  | none => .ok h.prototypes
  | some name =>
    match h.prototype? name with
    | some p => .ok [p]
    | none => .error (.unknownFunction name h.name)

/-- The inspection of a header, or of one of its functions. -/
def ofHeader (config : Config) (h : ParsedHeader) (function : Option String) :
    Except Error (List Inspection) := do
  let selected ← select h function
  let wrappers ← (Wrapper.ofPrototypes config selected).mapError (Error.binding h.name)
  return List.zipWith (ofWrapper config.naming) selected wrappers

/-- One entry as text. -/
def render (i : Inspection) : String :=
  let labels := if i.labels.isEmpty then "plain" else ", ".intercalate i.labels
  s!"{i.name} (line {i.line})\n" ++
  s!"  tags:     {labels}\n" ++
  s!"  declared: {i.declared}\n" ++
  s!"  wrapper:  {i.wrapper}\n"

/-- One entry as JSON. -/
def toJson (i : Inspection) : Json :=
  .record [("name", .text i.name), ("line", .number i.line),
    ("tags", .list (i.labels.map .text)), ("declared", .text i.declared),
    ("wrapper", .text i.wrapper)]

end Inspection

end VulkanGen
