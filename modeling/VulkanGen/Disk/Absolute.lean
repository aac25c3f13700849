import VulkanGen.Disk

/-!
# Absolute paths

A location has one path that starts at the root and names every directory on the way.
A directory that a command works in is given by that path.

* `Path.ofLocation`          the absolute path of a location
* `Disk.IsWorkingDirectory`  a directory that an absolute path leads to
-/

namespace VulkanGen

/-- The names of a location, the outermost first, each behind a separator. -/
def Path.namesText : Location → List Char
  | [] => []
  | name :: loc => namesText loc ++ '/' :: name.toList

/-- The absolute path of a location. -/
def Path.ofLocation (loc : Location) : Path :=
  if loc.isEmpty then ⟨"/"⟩ else ⟨.ofList (namesText loc)⟩

namespace Disk

/-- A name that a directory takes and a path can spell. -/
structure IsName (name : String) : Prop where
  ne_nil : name.toList ≠ []
  ne_dot : name.toList ≠ ['.']
  ne_dots : name.toList ≠ ['.', '.']
  no_separator : '/' ∉ name.toList
  no_nul : '\x00' ∉ name.toList
  size_le : name.utf8ByteSize ≤ longestName

/-- A directory to work in: it stands in directories, and all of them have names. -/
structure IsWorkingDirectory (d : Disk) (loc : Location) : Prop where
  directories : ∀ k, d.node? (loc.drop k) = some .directory
  names : ∀ name ∈ loc, IsName name

end Disk

end VulkanGen
