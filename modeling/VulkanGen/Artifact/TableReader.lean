import VulkanGen.Artifact.Table
import VulkanGen.Text.Digits
import VulkanGen.Text.Runs

/-!
# Reading the generated function table

The sources of a function table can be read back: the part in front of the lists
depends on the configuration alone, and each list runs, line by line, up to its
closing line.

* `readTableSource`  the groups, the names and the bound of the name lookup
* `readMembers`      the members of the structure
-/

namespace VulkanGen.Artifact

/-- The first line of a text and what follows it. -/
def splitLine (cs : List Char) : List Char × List Char :=
  (cs.takeWhile (· ≠ '\n'), (cs.dropWhile (· ≠ '\n')).drop 1)

theorem length_splitLine_lt {cs : List Char} (h : cs ≠ []) :
    (splitLine cs).2.length < cs.length := by
  have hle := Text.length_dropWhile_le (fun d : Char => decide (d ≠ '\n')) cs
  have hpos := List.length_pos_iff.2 h
  simp only [splitLine, List.length_drop]
  omega

/-- The lines of a list up to the one that closes it, and the text behind that. -/
def listLines (cs : List Char) : Option (List (List Char) × List Char) :=
  if _h : cs = [] then none
  else if (splitLine cs).1 ++ ['\n'] == closing.toList then some ([], (splitLine cs).2)
  else (listLines (splitLine cs).2).map fun (lines, rest) => ((splitLine cs).1 :: lines, rest)
termination_by cs.length
decreasing_by exact length_splitLine_lt ‹_›

/-- The number in front of a text, and what follows it. -/
def splitNumber (cs : List Char) : Nat × List Char :=
  (Text.decimal (cs.takeWhile Char.isDigit), cs.dropWhile Char.isDigit)

/-- The group that a line lists. -/
def group? (line : List Char) : Option Group := do
  let rest ← Text.stripPrefix? ("  " ++ Layout.openBrace ++ "\"").toList line
  let name := rest.takeWhile (· ≠ '"')
  let rest ← Text.stripPrefix? "\", ".toList (rest.dropWhile (· ≠ '"'))
  let (start, rest) := splitNumber rest
  let rest ← Text.stripPrefix? ", ".toList rest
  let (count, rest) := splitNumber rest
  if rest == (Layout.closeBrace ++ ",").toList then
    return ⟨.ofList name, start, count⟩
  else none

/-- The name that a line lists. -/
def name? (line : List Char) : Option String := do
  let rest ← Text.stripPrefix? "  \"".toList line
  if rest.dropWhile (· ≠ '"') == "\",".toList then
    return .ofList (rest.takeWhile (· ≠ '"'))
  else none

/-- The member that a line declares. -/
def member? (line : List Char) : Option String := do
  let rest ← Text.stripPrefix? "  PFN_".toList line
  let name : String := .ofList (rest.takeWhile (· ≠ ' '))
  if line == ("  PFN_" ++ name ++ " " ++ name ++ " { nullptr };").toList then
    return name
  else none

/-- The table of a source, and the bound of its name lookup. -/
def readTableSource (naming : Naming) (source : String) : Option (FunctionTable × Nat) := do
  let rest ← Text.stripPrefix? (tableSourceOpening naming).toList source.toList
  let (groups, rest) ← listLines rest
  let rest ← Text.stripPrefix? tableSourceBetween.toList rest
  let (names, rest) ← listLines rest
  let rest ← Text.stripPrefix? tableSourceLookup.toList rest
  return (⟨← names.mapM name?, ← groups.mapM group?⟩, (splitNumber rest).1)

example : group? (groupLine ⟨"core", 2, 31⟩).toList.dropLast = some ⟨"core", 2, 31⟩ := by
  decide +kernel

example : name? "  \"vkA\",".toList = some "vkA" := by decide
example : member? "  PFN_vkA vkA { nullptr };".toList = some "vkA" := by decide +kernel

end VulkanGen.Artifact
