import VulkanGen.Block

/-!
# Conditionals

Conditional directives nest: each line that starts with `#if` opens one, and each
line that starts with `#endif` closes the innermost one that is open.

* `Balanced`       every conditional is closed, and nothing else is
* `insideLength?`  how many lines stand inside a conditional
-/

namespace VulkanGen.Block.Conditional

/-- Whether a line opens a conditional. -/
def opens (line : List Char) : Bool :=
  "#if".toList.isPrefixOf (Text.trim line)

/-- Whether a line closes a conditional. -/
def closes (line : List Char) : Bool :=
  guardEnd.toList.isPrefixOf (Text.trim line)

/-- Whether a line opens a prototypes region. -/
def isGuard (line : List Char) : Bool :=
  Text.trim line == guardLine.toList

/-- Whether lines close what they open, with `depth` conditionals open in front of them. -/
def balancedFrom (depth : Nat) : List (List Char) → Bool
  | [] => depth == 0
  | line :: rest =>
    if opens line then balancedFrom (depth + 1) rest
    else if closes line then depth != 0 && balancedFrom (depth - 1) rest
    else balancedFrom depth rest

/-- Every conditional is closed, and nothing else is. -/
def Balanced (lines : List (List Char)) : Prop :=
  balancedFrom 0 lines

instance (lines : List (List Char)) : Decidable (Balanced lines) :=
  inferInstanceAs (Decidable (balancedFrom 0 lines = true))

/-- The number of lines up to the end of a conditional that is open in front of
them, inside `depth` others that were opened since. -/
def insideLengthFrom? (depth : Nat) : List (List Char) → Option Nat
  | [] => none
  | line :: rest =>
    if closes line then
      match depth with
      | 0 => some 0
      | depth + 1 => (insideLengthFrom? depth rest).map (· + 1)
    else if opens line then (insideLengthFrom? (depth + 1) rest).map (· + 1)
    else (insideLengthFrom? depth rest).map (· + 1)

/-- The number of lines inside a conditional, given the lines behind the one that
opens it. -/
def insideLength? (lines : List (List Char)) : Option Nat :=
  insideLengthFrom? 0 lines

example : insideLength? (["#if A", "x", "#endif", "y", " #endif"].map String.toList) = some 4 := by
  decide +kernel

end VulkanGen.Block.Conditional
