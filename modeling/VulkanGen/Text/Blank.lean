/-!
# Blank characters

White space in headers is Unicode's `White_Space` property: twenty-five
characters, six of them ASCII.  Trimming removes blanks from an end of a text
and touches nothing between them.

* `dropBlank_append_of_blank`  leading blanks do not matter
* `isBlank_of_isWhitespace`    the ASCII blanks that `Char` knows are blank
-/

namespace VulkanGen.Text

/-- Whether a character has the Unicode property `White_Space`. -/
@[irreducible] def isBlank (c : Char) : Bool :=
  let n := c.toNat
  (9 ≤ n && n ≤ 13) || n == 0x20 || n == 0x85 || n == 0xA0 || n == 0x1680 ||
    (0x2000 ≤ n && n ≤ 0x200A) || n == 0x2028 || n == 0x2029 || n == 0x202F ||
    n == 0x205F || n == 0x3000

/-- A text without its leading blanks. -/
def dropBlank (cs : List Char) : List Char :=
  cs.dropWhile isBlank

/-- A text without its trailing blanks. -/
def dropBlankEnd (cs : List Char) : List Char :=
  (dropBlank cs.reverse).reverse

/-- A text without the blanks at its two ends. -/
def trim (cs : List Char) : List Char :=
  dropBlankEnd (dropBlank cs)

theorem isBlank_of_isWhitespace (c : Char) (h : c.isWhitespace = true) : isBlank c = true := by
  simp only [Char.isWhitespace, Bool.or_eq_true, decide_eq_true_eq] at h
  rcases h with ((rfl | rfl) | rfl) | rfl <;> simp [isBlank]

@[simp] theorem dropBlank_nil : dropBlank [] = [] := rfl

theorem dropBlank_cons_of_not_blank {c : Char} (cs : List Char) (h : isBlank c = false) :
    dropBlank (c :: cs) = c :: cs := by
  simp [dropBlank, h]

/-- Blanks in front of a text are dropped with its own leading blanks. -/
theorem dropBlank_append_of_blank {gap : List Char} (cs : List Char)
    (h : ∀ c ∈ gap, isBlank c = true) : dropBlank (gap ++ cs) = dropBlank cs := by
  induction gap with
  | nil => rfl
  | cons c gap ih =>
    have hc := h c (by simp)
    have := ih fun d hd => h d (by simp [hd])
    simpa [dropBlank, hc] using this

end VulkanGen.Text
