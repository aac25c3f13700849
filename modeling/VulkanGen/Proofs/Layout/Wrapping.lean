import VulkanGen.Layout

/-!
# What wrapping does to a line

Wrapping puts line breaks behind commas.  A comma that is wrapped loses the spaces behind
it, and the next line is indented instead; every other character stays as it is and where
it is.  Two texts that are wrappings of the same line are therefore the same up to line
wrapping.

## Key results

- `wraps_wrapAt`, `wraps_wrapParameters`: wrapping wraps, and does nothing else
-/

namespace VulkanGen.Layout

/-- Whether a text is a line in which breaks stand behind some of the commas, each with an
indentation and in place of the spaces there. -/
inductive Wraps : List Char → List Char → Prop
  | done : Wraps [] []
  | keep (c : Char) {line wrapped : List Char} (h : Wraps line wrapped) :
      Wraps (c :: line) (c :: wrapped)
  | wrap (indent : Nat) {line wrapped : List Char}
      (h : Wraps (line.dropWhile (· == ' ')) wrapped) :
      Wraps (',' :: line) (',' :: '\n' :: (List.replicate indent ' ' ++ wrapped))

namespace Wraps

/-- A line that is not wrapped. -/
theorem refl (line : List Char) : Wraps line line := by
  induction line with
  | nil => exact .done
  | cons c line ih => exact .keep c ih

/-- What stands in front of a wrapped text stays as it is. -/
theorem append_left (front : List Char) {line wrapped : List Char} (h : Wraps line wrapped) :
    Wraps (front ++ line) (front ++ wrapped) := by
  induction front with
  | nil => exact h
  | cons c front ih => exact .keep c ih

end Wraps

/-- Breaking behind commas wraps. -/
private theorem wraps_breakCommas (indent depth : Nat) (line : List Char) :
    Wraps line (breakCommas indent depth line) := by
  fun_induction breakCommas indent depth line with
  | case1 depth => exact .done
  -- the spaces behind the comma are those that the break replaces
  | case2 depth c line behind hcomma ih =>
    have hc : c = ',' := by
      rw [Bool.and_eq_true, beq_iff_eq] at hcomma
      exact hcomma.1
    subst hc
    exact .wrap indent ih
  | case3 depth c line behind _ ih => exact .keep c ih

/-- Wrapping at a parenthesis wraps. -/
theorem wraps_wrapAt (opening body : List Char) (column maxWidth : Nat) :
    Wraps (opening ++ '(' :: body) (wrapAt opening body column maxWidth).toList := by
  unfold wrapAt
  by_cases hfits : fits (.ofList (opening ++ '(' :: body)) column maxWidth = true
  · simp only [hfits, if_true, String.toList_ofList]
    exact Wraps.refl _
  · simp only [hfits, Bool.false_eq_true, if_false, String.toList_ofList]
    -- the parenthesis and what stands in front of it are not wrapped
    apply Wraps.append_left
    exact .keep '(' (wraps_breakCommas _ 1 body)

/-- A line is wrapped at its first parenthesis. -/
theorem wrapParameters_eq_wrapAt {opening : List Char} (h : '(' ∉ opening) (body : List Char)
    (column maxWidth : Nat) :
    wrapParameters (.ofList (opening ++ '(' :: body)) column maxWidth =
      wrapAt opening body column maxWidth := by
  -- the opening is what stands in front of the first parenthesis
  have hrun : ∀ c ∈ opening, decide (c ≠ '(') = true := fun c hc =>
    decide_eq_true fun heq => h (heq ▸ hc)
  have hstop : ∀ c ∈ ('(' :: body).head?, decide (c ≠ '(') = false := by simp
  rw [wrapParameters, String.toList_ofList, Text.dropWhile_append_of_stop hrun hstop,
    Text.takeWhile_append_of_stop hrun hstop]

/-- Wrapping a line wraps it. -/
theorem wraps_wrapParameters (line : String) (column maxWidth : Nat) :
    Wraps line.toList (wrapParameters line column maxWidth).toList := by
  unfold wrapParameters
  cases hline : line.toList.dropWhile (· ≠ '(') with
  -- a line without a parenthesis is returned as it is
  | nil => exact Wraps.refl _
  | cons c body =>
    have hc : c = '(' := by simpa using Text.not_of_dropWhile_eq_cons hline
    subst hc
    -- otherwise the line is cut at its first parenthesis, and the two parts make it up
    have hsplit : line.toList.takeWhile (· ≠ '(') ++ '(' :: body = line.toList := by
      rw [← hline]
      exact List.takeWhile_append_dropWhile
    have hwraps := wraps_wrapAt (line.toList.takeWhile (· ≠ '(')) body column maxWidth
    rw [hsplit] at hwraps
    exact hwraps

end VulkanGen.Layout
