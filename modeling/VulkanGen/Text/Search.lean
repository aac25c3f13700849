/-!
# Searching texts

Texts are searched as lists of characters: for a part anywhere in them, for a
beginning or an end, and for every occurrence of a part to be cut out.

* `occursIn_iff`     a part occurs where some split of the text shows it
* `stripPrefix?_eq_some_iff`  what is left is the text behind the beginning
-/

namespace VulkanGen.Text

/-- Whether `part` stands somewhere in a text. -/
def occursIn (part : List Char) : List Char → Bool
  | [] => part.isEmpty
  | c :: cs => part.isPrefixOf (c :: cs) || occursIn part cs

theorem occursIn_iff (part cs : List Char) : occursIn part cs = true ↔ part <:+: cs := by
  induction cs with
  | nil => simp [occursIn]
  | cons c cs ih =>
    rw [occursIn, Bool.or_eq_true, ih, List.isPrefixOf_iff_prefix, List.infix_cons_iff]

/-- What follows `beginning` in a text that starts with it. -/
def stripPrefix? (beginning cs : List Char) : Option (List Char) :=
  if beginning.isPrefixOf cs then some (cs.drop beginning.length) else none

theorem stripPrefix?_eq_some_iff (beginning cs rest : List Char) :
    stripPrefix? beginning cs = some rest ↔ cs = beginning ++ rest := by
  simp only [stripPrefix?]
  split
  · next h =>
    obtain ⟨tail, rfl⟩ := List.isPrefixOf_iff_prefix.1 h
    simp
  · next h =>
    simp only [reduceCtorEq, false_iff]
    rintro rfl
    exact h (List.isPrefixOf_iff_prefix.2 (List.prefix_append _ _))

/-- Whether a text starts with `beginning`. -/
def startsWith (beginning : String) (text : String) : Bool :=
  beginning.toList.isPrefixOf text.toList

/-- Whether a text ends in `ending`. -/
def endsWith (ending : String) (text : String) : Bool :=
  ending.toList.isSuffixOf text.toList

/-- Whether `part` stands somewhere in a text. -/
def contains (part : String) (text : String) : Bool :=
  occursIn part.toList text.toList

/-- Cuts out the occurrences of `part` from left to right; `skip` characters of
the occurrence met last are still to be passed over. -/
def cutOut (part : List Char) (skip : Nat) : List Char → List Char
  | [] => []
  | c :: cs =>
    match skip with
    | skip + 1 => cutOut part skip cs
    | 0 =>
      if part.isPrefixOf (c :: cs) then cutOut part (part.length - 1) cs
      else c :: cutOut part 0 cs

/-- A text without the occurrences of `part`, which are found from left to right
and do not overlap.  The empty part leaves the text as it is. -/
def remove (part : String) (text : String) : String :=
  if part.isEmpty then text else .ofList (cutOut part.toList 0 text.toList)

example : remove "Cmd" "vkCmdDrawCmdX" = "vkDrawX" := by decide
example : remove "aa" "aaaba" = "aba" := by decide

end VulkanGen.Text

/-- A text that is interpolated stands for itself. -/
theorem VulkanGen.toString_string (text : String) : toString text = text := rfl
