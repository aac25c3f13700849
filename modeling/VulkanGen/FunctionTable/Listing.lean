import VulkanGen.FunctionTable
import VulkanGen.Json
import VulkanGen.Text.Digits

/-!
# Listings of a function table

A listing shows the groups of a table with their offsets and counts, in table
order.  As JSON it also shows the names.

* `listing`  the text
* `toJson`   the JSON
-/

namespace VulkanGen.FunctionTable

/-- One row of a listing. -/
def listingRow (offset count group : String) : String :=
  s!"  {Text.flushRight 6 offset}  {Text.flushRight 5 count}  {group}\n"

/-- The groups of a table as text. -/
def listing (t : FunctionTable) : String :=
  "=== Function Table ===\n" ++
  s!"Entries: {t.length}\n" ++
  s!"Groups: {t.groups.length}\n" ++
  "\n" ++
  listingRow "offset" "count" "group" ++
  String.join (t.groups.map fun g => listingRow (toString g.start) (toString g.count) g.name)

/-- A group as JSON. -/
def groupToJson (g : Group) : Json :=
  .record [("name", .text g.name), ("start", .number g.start), ("count", .number g.count)]

/-- A table as JSON. -/
def toJson (t : FunctionTable) : Json :=
  .record [("names", .list (t.names.map .text)), ("groups", .list (t.groups.map groupToJson))]

end VulkanGen.FunctionTable
