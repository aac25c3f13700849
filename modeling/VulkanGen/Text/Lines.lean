import VulkanGen.Text.Runs

/-!
# Lines of a text

A line ends at a line feed.  One carriage return directly in front of the line
feed belongs to the line break; a final piece without a line feed is a line of
its own and keeps whatever it holds; nothing follows a final line feed.

* `lines_cons_break`  the first line of a text and the lines of what follows it
* `lines_of_no_break` a text without line feeds is one line
-/

namespace VulkanGen.Text

/-- A line without the one carriage return it may end in. -/
def dropReturn (line : List Char) : List Char :=
  if line.getLast? = some '\r' then line.dropLast else line

/-- The lines of a text, without their line breaks. -/
def lines : List Char → List (List Char)
  | [] => []
  | c :: cs =>
    let line := (c :: cs).takeWhile (· ≠ '\n')
    let rest := (c :: cs).dropWhile (· ≠ '\n')
    if rest.isEmpty then [line] else dropReturn line :: lines rest.tail
termination_by cs => cs.length
decreasing_by
  have := length_dropWhile_le (fun d : Char => decide (d ≠ '\n')) (c :: cs)
  simp only [List.length_cons, List.length_tail] at this ⊢
  omega

@[simp] theorem lines_nil : lines [] = [] := by
  rw [lines]

/-- The end of a text is reached without a line feed: the text is one line. -/
theorem lines_of_no_break {cs : List Char} (hne : cs ≠ []) (h : '\n' ∉ cs) :
    lines cs = [cs] := by
  have hp : ∀ d ∈ cs, decide (d ≠ '\n') = true := by
    intro d hd
    exact decide_eq_true fun hdn => h (hdn ▸ hd)
  have htake := takeWhile_eq_self hp
  have hdrop := dropWhile_eq_nil hp
  cases cs with
  | nil => exact absurd rfl hne
  | cons c cs => simp only [lines, htake, hdrop, List.isEmpty_nil, if_true]

/-- The first line of a text ends at its first line feed. -/
theorem lines_cons_break (line rest : List Char) (h : '\n' ∉ line) :
    lines (line ++ '\n' :: rest) = dropReturn line :: lines rest := by
  have hp : ∀ d ∈ line, decide (d ≠ '\n') = true := by
    intro d hd
    exact decide_eq_true fun hdn => h (hdn ▸ hd)
  have htake : (line ++ '\n' :: rest).takeWhile (· ≠ '\n') = line := by
    rw [List.takeWhile_append_of_pos hp]
    simp
  have hdrop : (line ++ '\n' :: rest).dropWhile (· ≠ '\n') = '\n' :: rest := by
    rw [List.dropWhile_append_of_pos hp]
    simp
  cases hc : line ++ '\n' :: rest with
  | nil => simp at hc
  | cons c cs =>
    rw [hc] at htake hdrop
    simp only [lines, htake, hdrop, List.isEmpty_cons, Bool.false_eq_true, if_false,
      List.tail_cons]

end VulkanGen.Text
