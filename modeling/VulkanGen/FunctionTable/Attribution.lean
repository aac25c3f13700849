import VulkanGen.FunctionTable

/-!
# Attributing functions to extensions

A function may be met in several extension blocks, of one header or of several.
It belongs to the extension under which it is met first, unless it is a core
function.

* `sightings`       every function of every extension block, in order
* `firstSightings`  where each extension function is met first
* `attributed`      the extensions with the functions that belong to them
-/

namespace VulkanGen.FunctionTable

/-- The functions of a block, each with the extension's name. -/
def blockSightings (h : ParsedHeader) (block : Block) : List (String × String) :=
  match block.extension? with
  | none => []
  | some extension => (blockNames h block).map (extension, ·)

/-- The functions of all extension blocks of headers, each with the extension's name. -/
def sightings (headers : List ParsedHeader) : List (String × String) :=
  headers.flatMap fun h => h.blocks.flatMap (blockSightings h)

/-- The first sighting of each function that is not among the core functions. -/
def firstSightings (core : List String) (headers : List ParsedHeader) : List (String × String) :=
  ((sightings headers).filter fun s => !core.contains s.2).eraseDupsBy fun s t => s.2 == t.2

/-- The extensions that functions belong to, and the functions of each. -/
def attributed (core : List String) (headers : List ParsedHeader) :
    List (String × List String) :=
  let firsts := firstSightings core headers
  (firsts.map (·.1)).eraseDups.map fun extension =>
    (extension, (firsts.filter (·.1 == extension)).map (·.2))

end VulkanGen.FunctionTable
