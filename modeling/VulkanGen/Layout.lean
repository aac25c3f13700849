import VulkanGen.Text.Runs

/-!
# Line wrapping

A line that would be too long is broken behind every comma that stands directly
inside its first parenthesis, so that each parameter gets a line of its own; the
new lines are indented to the column just past that parenthesis.  The spaces
behind such a comma are dropped.  Round, square and angle brackets nest; which of
them closes which is not looked at.

Widths and columns count bytes of the UTF-8 text.  A limit of 0 means no limit.

Lines that belong together stand in braces, which have lines of their own.

* `wrapParameters_of_fits`, `wrapParameters_of_no_parenthesis`  when nothing changes
* `breakCommas_nil`, `breakCommas_cons_comma`, `breakCommas_cons_other`  one step of the breaking
* `joinBreaks`  the way back: each break with its indentation becomes one space
* `block`       lines in braces
-/

namespace VulkanGen.Layout

/-- The bracket depth behind a character. -/
def depthBehind (depth : Nat) (c : Char) : Nat :=
  if c == '(' || c == '[' || c == '<' then depth + 1
  else if c == ')' || c == ']' || c == '>' then depth - 1
  else depth

/-- A text that starts `depth` brackets deep, with a break of `indent` spaces
behind each comma at depth 1. -/
def breakCommas (indent depth : Nat) : List Char → List Char
  | [] => []
  | c :: cs =>
    let depth := depthBehind depth c
    if c == ',' && depth == 1 then
      ',' :: '\n' :: (List.replicate indent ' ' ++
        breakCommas indent depth (cs.dropWhile (· == ' ')))
    else c :: breakCommas indent depth cs
termination_by cs => cs.length
decreasing_by
  · have := Text.length_dropWhile_le (· == ' ') cs
    simp only [List.length_cons]
    omega
  · simp

/-- Whether a text that starts at `column` needs no break. -/
def fits (text : String) (column maxWidth : Nat) : Bool :=
  maxWidth == 0 || column + text.utf8ByteSize ≤ maxWidth

/-- The text `opening ++ "(" ++ body`, which starts at `column`, with a break
behind each comma that stands directly inside its parenthesis, unless it fits. -/
def wrapAt (opening body : List Char) (column maxWidth : Nat) : String :=
  let text : String := .ofList (opening ++ '(' :: body)
  if fits text column maxWidth then text
  else
    let indent := column + (String.ofList opening).utf8ByteSize + 1
    .ofList (opening ++ '(' :: breakCommas indent 1 body)

/-- A text that starts at `column`, one parameter per line if it does not fit. -/
def wrapParameters (text : String) (column maxWidth : Nat) : String :=
  match text.toList.dropWhile (· ≠ '(') with
  | [] => text
  | _ :: body => wrapAt (text.toList.takeWhile (· ≠ '(')) body column maxWidth

/-- A text in which each line break behind a comma, with the spaces that indent
the next line, is one space. -/
def joinBreaks : List Char → List Char
  | [] => []
  | [c] => [c]
  | c :: d :: cs =>
    if c == ',' && d == '\n' then ',' :: ' ' :: joinBreaks (cs.dropWhile (· == ' '))
    else c :: joinBreaks (d :: cs)
termination_by cs => cs.length
decreasing_by
  · have := Text.length_dropWhile_le (· == ' ') cs
    simp only [List.length_cons]
    omega
  · simp

/-- What opens a block. -/
def openBrace : String := .singleton '{'

/-- What closes a block. -/
def closeBrace : String := .singleton '}'

/-- Lines in braces, with a margin in front of both. -/
def block (margin lines : String) : String :=
  margin ++ openBrace ++ "\n" ++ lines ++ margin ++ closeBrace

theorem toList_block (margin lines : String) :
    (block margin lines).toList =
      margin.toList ++ '{' :: '\n' :: (lines.toList ++ (margin.toList ++ ['}'])) := by
  simp only [block, String.toList_append, List.append_assoc]
  rfl

@[simp] theorem breakCommas_nil (indent depth : Nat) : breakCommas indent depth [] = [] := by
  rw [breakCommas]

/-- A comma at depth 1 is followed by a break. -/
theorem breakCommas_cons_comma (indent : Nat) (cs : List Char) :
    breakCommas indent 1 (',' :: cs) =
      ',' :: '\n' :: (List.replicate indent ' ' ++
        breakCommas indent 1 (cs.dropWhile (· == ' '))) := by
  rw [breakCommas]
  rfl

/-- Any other character stays as it is. -/
theorem breakCommas_cons_other (indent depth : Nat) {c : Char} (cs : List Char)
    (h : c ≠ ',' ∨ depth ≠ 1) :
    breakCommas indent depth (c :: cs) = c :: breakCommas indent (depthBehind depth c) cs := by
  rw [breakCommas]
  have hn : (c == ',' && depthBehind depth c == 1) = false := by
    by_cases hc : c = ','
    · subst hc
      simpa [depthBehind] using h
    · simp [hc]
  simp only [hn, Bool.false_eq_true, if_false]

/-- A text that fits is not touched. -/
theorem wrapAt_of_fits {opening body : List Char} {column maxWidth : Nat}
    (h : fits (.ofList (opening ++ '(' :: body)) column maxWidth = true) :
    wrapAt opening body column maxWidth = .ofList (opening ++ '(' :: body) := by
  simp only [wrapAt, h, if_true]

/-- A text without a parenthesis is not touched. -/
theorem wrapParameters_of_no_parenthesis {text : String} (column maxWidth : Nat)
    (h : '(' ∉ text.toList) : wrapParameters text column maxWidth = text := by
  have hd : text.toList.dropWhile (· ≠ '(') = [] :=
    Text.dropWhile_eq_nil fun d hd => decide_eq_true fun he => h (he ▸ hd)
  simp only [wrapParameters, hd]

/-- A text that fits is not touched. -/
theorem wrapParameters_of_fits {text : String} {column maxWidth : Nat}
    (h : fits text column maxWidth = true) : wrapParameters text column maxWidth = text := by
  simp only [wrapParameters]
  split
  · rfl
  · next c body heq =>
    have hc : c = '(' := by simpa using Text.not_of_dropWhile_eq_cons heq
    subst hc
    have htext : text.toList.takeWhile (· ≠ '(') ++ '(' :: body = text.toList := by
      rw [← heq]
      exact List.takeWhile_append_dropWhile
    rw [wrapAt_of_fits (by rw [htext, String.ofList_toList]; exact h), htext,
      String.ofList_toList]

end VulkanGen.Layout
