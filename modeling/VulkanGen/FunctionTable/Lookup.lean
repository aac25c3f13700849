import VulkanGen.Artifact.TableReader
import VulkanGen.FunctionTable.Attribution

/-!
# Looking groups up by name

A loader asks for a group by its name, and gets the first one that is listed under it.
Every table has three groups of its own, which are listed first, and the groups of
extensions are named as the headers name them; so a group can only be reached if its
name is no other's.

* `loadInfo`     what the lookup of the generated source tells for a name
* `GroupsApart`  that no two things a table names a group after have the same name
-/

namespace VulkanGen

namespace FunctionTable

/-- What the generated lookup tells for a name: where the first group that is listed
under it starts and how many functions it has, or nothing from index 0 on.  Names are
compared as they are spelled between quotes. -/
def loadInfo : List Group → String → Nat × Nat
  | [], _ => (0, 0)
  | g :: rest, name => if name == g.name then (g.start, g.count) else loadInfo rest name

/-- The names of the groups that every table has, in table order. -/
def fixedGroups (naming : Naming) : List String :=
  [naming.bootstrapFunction, globalGroup, coreGroup]

/-- Groups are named apart: the bootstrap function is not called like one of the fixed
groups, and no function that lacks a place among the core functions is met first under
an extension that is called like one of them. -/
structure GroupsApart (naming : Naming) (coreHeader : ParsedHeader)
    (headers : List ParsedHeader) : Prop where
  bootstrap : naming.bootstrapFunction ∉ [globalGroup, coreGroup]
  extensions : ∀ s ∈ firstSightings (coreNames coreHeader) headers, s.1 ∉ fixedGroups naming

end FunctionTable

/-- What the lookup of a generated source tells for a name. -/
def Artifact.loadInfo? (naming : Naming) (source name : String) : Option (Nat × Nat) :=
  (readTableSource naming source).map fun (t, _) => FunctionTable.loadInfo t.groups name

end VulkanGen
