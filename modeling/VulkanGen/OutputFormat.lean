import VulkanGen.Json

/-!
# Output formats

What a command shows can be had as text for a reader or as JSON for a program.

* `ofName?_name`  a format is found by its name
-/

namespace VulkanGen

/-- How a command shows its result. -/
inductive OutputFormat where
  | text
  | json
  deriving DecidableEq, Repr

namespace OutputFormat

/-- The name of a format. -/
def name : OutputFormat → String
  | text => "text"
  | json => "json"

/-- The format of a name. -/
def ofName? (s : String) : Option OutputFormat :=
  if s == "text" then some text
  else if s == "json" then some json
  else none

/-- A value in a format: the text as it is, the JSON with a line break at its end. -/
def render (text : String) (json : Json) : OutputFormat → String
  | .text => text
  | .json => json.render ++ "\n"

/-- A format is found by its name. -/
theorem ofName?_name (f : OutputFormat) : ofName? f.name = some f := by
  cases f <;> decide

end OutputFormat

end VulkanGen
