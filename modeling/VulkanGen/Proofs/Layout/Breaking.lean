import VulkanGen.Layout.Bracketed
import VulkanGen.Proofs.Layout.Wrapping

/-!
# Where a line is broken

The scanner that breaks a line keeps one depth for all kinds of brackets and goes on to the
end of the text.  Inside the first parenthesis of a properly nested text the depth is that
of the nesting, so the commas that stand directly in it are those that are broken behind.
Behind it the depth starts anew: it cannot go below zero, and the next group beside the
parenthesis, or beside a group around it, is broken like the first one.

## Key results

- `breakCommas_text`: how a sequence is broken that stands in the first parenthesis
- `breakCommas_behind`: how one is broken that stands behind it
- `splits_of_firstParenthesis?`: every nested text with a parenthesis has a first one
- `wrapParameters_eq`: what wrapping makes of a nested text
- `wrapParameters_breaks_first_iff`: when that is what the first parenthesis asks for
-/

namespace VulkanGen.Layout

open Bracketed

/-! ## Brackets and the depth -/

variable {indent depth : Nat} {c : Char} {items : List Bracketed} {item : Bracketed}

/-- Behind an opening bracket the depth is one more. -/
private theorem depthBehind_opening (depth : Nat) (b : Bracket) :
    depthBehind depth b.opening = depth + 1 := by
  cases b <;> rfl

/-- Behind a closing bracket the depth is one less, or zero. -/
private theorem depthBehind_closing (depth : Nat) (b : Bracket) :
    depthBehind depth b.closing = depth - 1 := by
  cases b <;> rfl

/-- An opening bracket is no comma. -/
private theorem not_comma_opening (b : Bracket) : b.opening ≠ ',' := by
  cases b <;> decide

/-- A closing bracket is no comma. -/
private theorem not_comma_closing (b : Bracket) : b.closing ≠ ',' := by
  cases b <;> decide

/-- A character is no bracket if it is none of the six. -/
theorem not_bracket_iff :
    isBracket c = false ↔ c ≠ '(' ∧ c ≠ ')' ∧ c ≠ '[' ∧ c ≠ ']' ∧ c ≠ '<' ∧ c ≠ '>' := by
  simp [isBracket, List.contains_eq_mem]

/-- Behind a character that is no bracket the depth is the same. -/
theorem depthBehind_of_not_bracket (depth : Nat) (h : isBracket c = false) :
    depthBehind depth c = depth := by
  obtain ⟨h₁, h₂, h₃, h₄, h₅, h₆⟩ := not_bracket_iff.mp h
  simp [depthBehind, h₁, h₂, h₃, h₄, h₅, h₆]

/-- An opening bracket raises the depth. -/
private theorem breakCommas_opening (indent depth : Nat) (b : Bracket) (cs : List Char) :
    breakCommas indent depth (b.opening :: cs) =
      b.opening :: breakCommas indent (depth + 1) cs := by
  rw [breakCommas_cons_other indent depth cs (.inl (not_comma_opening b)), depthBehind_opening]

/-- A closing bracket lowers it, if it is not zero. -/
private theorem breakCommas_closing (indent depth : Nat) (b : Bracket) (cs : List Char) :
    breakCommas indent depth (b.closing :: cs) =
      b.closing :: breakCommas indent (depth - 1) cs := by
  rw [breakCommas_cons_other indent depth cs (.inl (not_comma_closing b)), depthBehind_closing]

/-- A character that is no bracket leaves it as it is. -/
private theorem breakCommas_cons_of_not_bracket (cs : List Char) (hbracket : isBracket c = false)
    (h : c ≠ ',' ∨ depth ≠ 1) :
    breakCommas indent depth (c :: cs) = c :: breakCommas indent depth cs := by
  rw [breakCommas_cons_other indent depth cs h, depthBehind_of_not_bracket depth hbracket]

/-! ## Sequences inside the parenthesis -/

mutual

/-- An item deeper in the parenthesis is not broken. -/
private theorem breakCommas_itemText (indent depth : Nat) {item : Bracketed}
    (h : nestedItem item = true) (rest : List Char) :
    breakCommas indent (depth + 2) (itemText item ++ rest) =
      itemText item ++ breakCommas indent (depth + 2) rest := by
  match item with
  | char c =>
    have hbracket : isBracket c = false := by simpa [nestedItem] using h
    exact breakCommas_cons_of_not_bracket rest hbracket (.inr (by omega))
  -- the depth inside is still at least 2, and it is the same again behind the group
  | group bracket items =>
    have hitems : nested items = true := h
    simp only [itemText, List.cons_append, List.append_assoc, List.nil_append]
    rw [breakCommas_opening, breakCommas_text indent (depth + 1) hitems, breakCommas_closing]
    rfl

/-- Neither is a sequence. -/
theorem breakCommas_text (indent depth : Nat) {items : List Bracketed}
    (h : nested items = true) (rest : List Char) :
    breakCommas indent (depth + 2) (text items ++ rest) =
      text items ++ breakCommas indent (depth + 2) rest := by
  match items with
  | [] => rfl
  | item :: items =>
    obtain ⟨hitem, hitems⟩ := Bool.and_eq_true_iff.mp h
    simp only [text, List.append_assoc]
    rw [breakCommas_itemText indent depth hitem, breakCommas_text indent depth hitems]

end

/-- A group is not broken inside where it stands in the parenthesis. -/
private theorem breakCommas_group (bracket : Bracket) (h : nested items = true) (rest : List Char) :
    breakCommas indent 1 (itemText (group bracket items) ++ rest) =
      itemText (group bracket items) ++ breakCommas indent 1 rest := by
  simp only [itemText, List.cons_append, List.append_assoc, List.nil_append]
  rw [breakCommas_opening, breakCommas_text indent 0 h, breakCommas_closing]

/-- Only the space is a space. -/
private theorem isSpace_iff : item.isSpace = true ↔ item = char ' ' := by
  match item with
  | char c => simp [isSpace]
  | group _ _ => simp [isSpace]

/-- Only the comma is a comma. -/
private theorem isComma_iff : item.isComma = true ↔ item = char ',' := by
  match item with
  | char c => simp [isComma]
  | group _ _ => simp [isComma]

/-- Neither is anything else that stands directly in the parenthesis and is no comma. -/
private theorem breakCommas_item (h : nestedItem item = true) (hcomma : item.isComma = false)
    (rest : List Char) :
    breakCommas indent 1 (itemText item ++ rest) = itemText item ++ breakCommas indent 1 rest := by
  match item with
  | char c =>
    have hbracket : isBracket c = false := by simpa [nestedItem] using h
    have hc : c ≠ ',' := by simpa [isComma] using hcomma
    exact breakCommas_cons_of_not_bracket rest hbracket (.inl hc)
  | group bracket items => exact breakCommas_group bracket h rest

/-- The text of an item that is no space starts with something else. -/
private theorem dropWhile_itemText (h : item.isSpace = false) (rest : List Char) :
    (itemText item ++ rest).dropWhile (· == ' ') = itemText item ++ rest := by
  match item with
  | char c =>
    have hc : (c == ' ') = false := h
    exact List.dropWhile_cons_of_neg (by simp [hc])
  | group bracket items =>
    have hopening : (bracket.opening == ' ') = false := by cases bracket <;> rfl
    exact List.dropWhile_cons_of_neg (by simp [hopening])

/-- Behind the first item of a sequence that is directly in the parenthesis the spaces are
dropped exactly if it is a comma. -/
private theorem breakDirectFrom_cons (broken : Bool) (rest : List Bracketed)
    (h : (broken && item.isSpace) = false) :
    breakDirectFrom indent broken (item :: rest) =
      if item.isComma then
        ',' :: '\n' :: List.replicate indent ' ' ++ breakDirectFrom indent true rest
      else itemText item ++ breakDirectFrom indent false rest := by
  -- its equations tell the comma from other items by a pattern, this statement by a test
  rw [breakDirectFrom.eq_def]
  dsimp only
  rw [h, if_neg Bool.false_ne_true]
  cases hcomma : item.isComma with
  | true =>
    obtain rfl := isComma_iff.mp hcomma
    rfl
  -- no other item has the pattern of a comma
  | false =>
    rw [if_neg Bool.false_ne_true]
    split
    · next heq => exact absurd hcomma (by simp [isComma])
    · rfl

/-- A sequence that is directly in the parenthesis is broken behind its commas. -/
private theorem breakCommas_direct (h : nested items = true) {rest : List Char}
    (hrest : rest.head? ≠ some ' ') (broken : Bool) :
    breakCommas indent 1
        (if broken then (text items ++ rest).dropWhile (· == ' ') else text items ++ rest) =
      breakDirectFrom indent broken items ++ breakCommas indent 1 rest := by
  -- along the items; behind a comma that is broken, the spaces are passed over
  induction items generalizing broken with
  | nil =>
    have hdrop : rest.dropWhile (· == ' ') = rest := by
      cases rest with
      | nil => rfl
      | cons c rest => exact List.dropWhile_cons_of_neg (by simpa using hrest)
    cases broken <;> simp [text, breakDirectFrom, hdrop]
  | cons item items ih =>
    obtain ⟨hitem, hitems⟩ := Bool.and_eq_true_iff.mp h
    simp only [text, List.append_assoc]
    -- a space behind a comma is dropped on both sides, and the break is still the last thing
    -- written
    cases hspace : broken && item.isSpace with
    | true =>
      obtain ⟨rfl, hspace⟩ := Bool.and_eq_true_iff.mp hspace
      obtain rfl := isSpace_iff.mp hspace
      exact ih hitems true
    | false =>
      -- any other item ends the spaces that are dropped
      have hsame : (if broken then (itemText item ++ (text items ++ rest)).dropWhile (· == ' ')
          else itemText item ++ (text items ++ rest)) = itemText item ++ (text items ++ rest) := by
        cases broken with
        | false => rfl
        | true => exact dropWhile_itemText hspace _
      rw [hsame, breakDirectFrom_cons broken items hspace]
      cases hcomma : item.isComma with
      | true =>
        obtain rfl := isComma_iff.mp hcomma
        -- a comma at depth 1 is where `breakCommas` breaks; behind it the induction starts broken
        have hbreak : breakCommas indent 1 (itemText (char ',') ++ (text items ++ rest)) =
            ',' :: '\n' :: (List.replicate indent ' ' ++
              breakCommas indent 1 ((text items ++ rest).dropWhile (· == ' '))) :=
          breakCommas_cons_comma indent _
        have hbehind := ih hitems true
        rw [if_pos rfl] at hbehind
        rw [hbreak, hbehind, if_pos rfl]
        simp only [List.cons_append, List.append_assoc]
      | false =>
        have hbehind := ih hitems false
        rw [if_neg Bool.false_ne_true] at hbehind
        rw [breakCommas_item hitem hcomma, hbehind, if_neg Bool.false_ne_true, List.append_assoc]

/-- The sequence in the parenthesis is broken behind its commas, up to the closing bracket. -/
private theorem breakCommas_inside (indent : Nat) (bracket : Bracket) (h : nested items = true)
    (rest : List Char) :
    breakCommas indent 1 (text items ++ bracket.closing :: rest) =
      breakDirect indent items ++ bracket.closing :: breakCommas indent 0 rest := by
  have hclosing : (bracket.closing :: rest).head? ≠ some ' ' := by cases bracket <;> simp
    [Bracket.closing]
  have hdirect : breakCommas indent 1 (text items ++ bracket.closing :: rest) =
      breakDirectFrom indent false items ++ breakCommas indent 1 (bracket.closing :: rest) :=
    breakCommas_direct h hclosing false
  rw [hdirect, breakCommas_closing]
  rfl

/-! ## Sequences behind the parenthesis -/

/-- Whether an item can stand behind the first parenthesis of a nested text: it is nested,
or closes a group around the parenthesis. -/
def standsBehind : Bracketed → Bool
  | char c => !(['(', '[', '<'].contains c)
  | group _ items => nested items

/-- What is nested can stand behind a parenthesis. -/
private theorem standsBehind_of_nestedItem (h : nestedItem item = true) :
    standsBehind item = true := by
  match item with
  | char c =>
    have hbracket : isBracket c = false := by simpa [nestedItem] using h
    obtain ⟨hround, _, hsquare, _, hangle, _⟩ := not_bracket_iff.mp hbracket
    simp [standsBehind, hround, hsquare, hangle]
  | group _ items => exact h

/-- The items of a nested sequence can stand behind a parenthesis. -/
private theorem standsBehind_of_nested (h : nested items = true) :
    ∀ item ∈ items, standsBehind item = true := by
  induction items with
  | nil => exact fun _ hitem => nomatch hitem
  | cons item items ih =>
    obtain ⟨hitem, hitems⟩ := Bool.and_eq_true_iff.mp h
    exact List.forall_mem_cons.mpr ⟨standsBehind_of_nestedItem hitem, ih hitems⟩

/-- The closing bracket of a group around a parenthesis can stand behind it. -/
private theorem standsBehind_closing (bracket : Bracket) : standsBehind
    (char bracket.closing) = true := by
  cases bracket <;> decide

/-- Behind the parenthesis every group is broken like the parenthesis itself. -/
theorem breakCommas_behind (h : ∀ item ∈ items, standsBehind item = true) :
    breakCommas indent 0 (text items) = items.flatMap (breakInside indent) := by
  -- along the items; at depth 0 only a group can hold a comma at depth 1
  induction items with
  | nil => rw [text, breakCommas_nil, List.flatMap_nil]
  | cons item items ih =>
    rw [List.forall_mem_cons] at h
    rw [text, List.flatMap_cons, ← ih h.2]
    match item with
    | char c =>
      -- a closing bracket at depth 0 leaves the depth at 0, so groups left open do not count
      have hdepth : depthBehind 0 c = 0 := by
        have hopening : c ≠ '(' ∧ c ≠ '[' ∧ c ≠ '<' := by simpa [standsBehind] using h.1
        simp [depthBehind, hopening.1, hopening.2.1, hopening.2.2]
      simp only [itemText, breakInside, List.cons_append, List.nil_append]
      rw [breakCommas_cons_other indent 0 _ (.inr Nat.zero_ne_one), hdepth]
    | group bracket inner =>
      simp only [itemText, breakInside, List.cons_append, List.nil_append, List.append_assoc]
      rw [breakCommas_opening, breakCommas_inside indent bracket h.1]

/-! ## The first parenthesis -/

/-- The text of two sequences in a row. -/
private theorem text_append (xs ys : List Bracketed) : text (xs ++ ys) = text xs ++ text ys := by
  induction xs with
  | nil => rfl
  | cons x xs ih => rw [List.cons_append, text, text, ih, List.append_assoc]

/-- Whether a text is taken apart at its first parenthesis. -/
structure FirstParenthesis.Splits (f : FirstParenthesis) (cs : List Char) : Prop where
  text_eq : f.text = cs
  first : '(' ∉ f.before
  nested_inside : nested f.inside = true
  standsBehind : ∀ item ∈ f.behind, standsBehind item = true

/-- In a group that is not round, the first parenthesis is that of its items, inside the
brackets of the group. -/
private theorem firstOfItem?_group {bracket : Bracket} (h : bracket ≠ .round)
    (items : List Bracketed) :
    firstOfItem? (group bracket items) = (firstParenthesis? items).map fun f =>
      ⟨bracket.opening :: f.before, f.inside, f.behind ++ [char bracket.closing]⟩ := by
  cases bracket with
  | round => exact absurd rfl h
  | square => rfl
  | angle => rfl

/-- A parenthesis that a group around it holds. -/
private theorem FirstParenthesis.Splits.enclose {f : FirstParenthesis}
    (h : f.Splits (Bracketed.text items)) {bracket : Bracket} (hbracket : bracket ≠ .round) :
    FirstParenthesis.Splits
      ⟨bracket.opening :: f.before, f.inside, f.behind ++ [char bracket.closing]⟩
      (itemText (group bracket items)) where
  text_eq := by
    rw [itemText, ← h.text_eq]
    simp only [text, text_append, Bracketed.text, itemText, List.cons_append,
      List.append_assoc, List.nil_append]
  first := by
    -- the group is not round, so its bracket does not come before as a parenthesis
    have hopening : '(' ≠ bracket.opening := by
      cases bracket with
      | round => exact absurd rfl hbracket
      | square => decide
      | angle => decide
    rw [List.mem_cons, not_or]
    exact ⟨hopening, h.first⟩
  nested_inside := h.nested_inside
  standsBehind := List.forall_mem_append.mpr
    ⟨h.standsBehind, List.forall_mem_singleton.mpr (standsBehind_closing bracket)⟩

mutual

/-- A nested item has a first parenthesis, or none at all. -/
private theorem splits_of_firstOfItem? {item : Bracketed} (h : nestedItem item = true) :
    (firstOfItem? item = none ∧ '(' ∉ itemText item) ∨
      ∃ f, firstOfItem? item = some f ∧ f.Splits (itemText item) := by
  match item with
  -- a character by itself is no bracket, so no parenthesis
  | char c =>
    have hbracket : isBracket c = false := by simpa [nestedItem] using h
    refine .inl ⟨rfl, fun hmem => (not_bracket_iff.mp hbracket).1 ?_⟩
    exact (List.mem_singleton.mp hmem).symm
  | group bracket items =>
    have hitems : nested items = true := h
    -- a round group is the parenthesis itself; another one is searched inside
    by_cases hround : bracket = .round
    · subst hround
      exact .inr
        ⟨⟨[], items, []⟩, rfl, rfl, List.not_mem_nil, hitems, fun _ hitem => nomatch hitem⟩
    · rw [firstOfItem?_group hround]
      rcases splits_of_firstParenthesis? hitems with ⟨hnone, hno⟩ | ⟨f, hf, hsplits⟩
      · -- neither the brackets around it nor what they hold is one
        refine .inl ⟨by rw [hnone]; rfl, ?_⟩
        cases bracket with
        | round => exact absurd rfl hround
        | square => simpa [itemText, Bracket.opening, Bracket.closing] using hno
        | angle => simpa [itemText, Bracket.opening, Bracket.closing] using hno
      · exact .inr ⟨_, by rw [hf]; rfl, hsplits.enclose hround⟩

/-- A nested sequence has a first parenthesis, or none at all. -/
theorem splits_of_firstParenthesis? {items : List Bracketed} (h : nested items = true) :
    (firstParenthesis? items = none ∧ '(' ∉ text items) ∨
      ∃ f, firstParenthesis? items = some f ∧ f.Splits (text items) := by
  match items with
  | [] => exact .inl ⟨rfl, List.not_mem_nil⟩
  | item :: rest =>
    obtain ⟨hitem, hrest⟩ := Bool.and_eq_true_iff.mp h
    rw [text, firstParenthesis?]
    -- the first item with a parenthesis has the first one of the sequence
    rcases splits_of_firstOfItem? hitem with ⟨hnone, hno⟩ | ⟨f, hf, hsplits⟩
    · rw [hnone]
      rcases splits_of_firstParenthesis? hrest with ⟨hnone', hno'⟩ | ⟨f, hf, hsplits⟩
      · refine .inl ⟨by rw [hnone']; rfl, ?_⟩
        rw [List.mem_append, not_or]
        exact ⟨hno, hno'⟩
      · refine .inr ⟨{ f with before := itemText item ++ f.before }, by rw [hf]; rfl, ?_, ?_,
          hsplits.nested_inside, hsplits.standsBehind⟩
        · rw [← hsplits.text_eq]
          exact List.append_assoc _ _ _
        · rw [List.mem_append, not_or]
          exact ⟨hno, hsplits.first⟩
    · -- what stands behind is the rest of this item and all later ones
      rw [hf]
      refine .inr ⟨_, rfl, ?_, hsplits.first, hsplits.nested_inside,
        List.forall_mem_append.mpr ⟨hsplits.standsBehind, standsBehind_of_nested hrest⟩⟩
      rw [← hsplits.text_eq]
      simp only [FirstParenthesis.text, text_append, List.append_assoc, List.cons_append]

end

/-! ## What wrapping does -/

namespace FirstParenthesis

/-- The text with a break behind each comma that stands directly in the parenthesis, or in
one of the groups behind it. -/
def brokenToEnd (indent : Nat) (f : FirstParenthesis) : List Char :=
  f.before ++ '(' :: (breakDirect indent f.inside ++ ')' :: f.behind.flatMap (breakInside indent))

/-- A text that does not fit is broken in its first parenthesis and in the groups behind. -/
theorem Splits.wrapParameters_eq {f : FirstParenthesis} {cs : List Char} (h : f.Splits cs)
    {column maxWidth : Nat} (hfits : fits (.ofList cs) column maxWidth = false) :
    wrapParameters (.ofList cs) column maxWidth = .ofList (f.brokenToEnd (f.indent column)) := by
  have hcs := h.text_eq
  rw [FirstParenthesis.text] at hcs
  rw [← hcs] at hfits ⊢
  -- no parenthesis comes before, so the search stops at this one
  rw [wrapParameters_eq_wrapAt h.first]
  simp only [wrapAt, hfits, Bool.false_eq_true, if_false]
  have hinside := breakCommas_inside (f.indent column) .round h.nested_inside
    (Bracketed.text f.behind)
  rw [breakCommas_behind h.standsBehind] at hinside
  rw [brokenToEnd]
  exact congrArg (fun cs => String.ofList (f.before ++ '(' :: cs)) hinside

end FirstParenthesis

/-! ## When only the first parenthesis is broken -/

/-- A sequence gets one line break for each comma that stands directly in it. -/
private theorem count_breakDirectFrom (indent : Nat) (broken : Bool) (items : List Bracketed) :
    (breakDirectFrom indent broken items).count '\n' =
      (text items).count '\n' + items.countP isComma := by
  induction items generalizing broken with
  | nil => rfl
  | cons item items ih =>
    rw [text, List.count_append]
    -- a space that is dropped is no line break
    cases hspace : broken && item.isSpace with
    | true =>
      obtain ⟨rfl, hspace⟩ := Bool.and_eq_true_iff.mp hspace
      obtain rfl := isSpace_iff.mp hspace
      have hskip : breakDirectFrom indent true (char ' ' :: items) =
          breakDirectFrom indent true items := rfl
      rw [hskip, ih, List.countP_cons_of_neg (by decide)]
      simp [itemText]
    | false =>
      rw [breakDirectFrom_cons broken items hspace]
      cases hcomma : item.isComma with
      | true =>
        -- a comma is followed by a break of its own
        obtain rfl := isComma_iff.mp hcomma
        rw [if_pos rfl, List.countP_cons_of_pos hcomma]
        simp [itemText, List.count_replicate, ih]
        omega
      | false =>
        rw [if_neg Bool.false_ne_true, List.countP_cons_of_neg (by simp [hcomma]),
          List.count_append, ih]
        omega

/-- A sequence without commas is not broken. -/
private theorem breakDirectFrom_of_no_comma (indent : Nat)
    (h : ∀ item ∈ items, item.isComma = false) :
    breakDirectFrom indent false items = text items := by
  induction items with
  | nil => rfl
  | cons item items ih =>
    rw [List.forall_mem_cons] at h
    rw [breakDirectFrom_cons false items rfl, h.1, if_neg Bool.false_ne_true, ih h.2, text]

/-- A group gets one line break for each comma that stands directly in it. -/
private theorem count_breakInside (indent : Nat) (item : Bracketed) :
    (breakInside indent item).count '\n' = (itemText item).count '\n' + item.commas := by
  match item with
  | char c => rfl
  | group bracket items =>
    simp only [breakInside, itemText, commas, breakDirect, List.count_cons, List.count_append,
      count_breakDirectFrom, List.cons_append]
    omega

/-- A group without a comma directly in it is not broken. -/
private theorem breakInside_of_no_comma (indent : Nat) (h : item.commas = 0) :
    breakInside indent item = itemText item := by
  match item with
  | char c => rfl
  | group bracket items =>
    have hnone : ∀ item ∈ items, item.isComma = false := fun item hitem =>
      Bool.eq_false_iff.mpr (List.countP_eq_zero.mp h item hitem)
    rw [breakInside, itemText, breakDirect, breakDirectFrom_of_no_comma indent hnone]
    rfl

/-- Breaking takes no line break away. -/
private theorem count_text_le (indent : Nat) (items : List Bracketed) :
    (text items).count '\n' ≤ (items.flatMap (breakInside indent)).count '\n' := by
  induction items with
  | nil => exact Nat.le_refl _
  | cons item items ih =>
    rw [text, List.flatMap_cons, List.count_append, List.count_append, count_breakInside]
    omega

/-- Groups stay as they are exactly if no comma stands directly in one of them. -/
private theorem flatMap_breakInside_eq_iff (indent : Nat) (items : List Bracketed) :
    items.flatMap (breakInside indent) = text items ↔ ∀ item ∈ items, item.commas = 0 := by
  induction items with
  | nil => simp [text]
  | cons item items ih =>
    rw [text, List.flatMap_cons, List.forall_mem_cons]
    constructor
    · intro heq
      -- each such comma would make one line break more
      have hcount := congrArg (List.count '\n') heq
      rw [List.count_append, List.count_append, count_breakInside] at hcount
      have hle := count_text_le indent items
      have hnone : item.commas = 0 := by omega
      rw [breakInside_of_no_comma indent hnone] at heq
      exact ⟨hnone, ih.mp (List.append_cancel_left heq)⟩
    · intro ⟨hnone, hothers⟩
      rw [breakInside_of_no_comma indent hnone, ih.mpr hothers]

/-- A text does not fit if there is a limit and the text ends behind it. -/
private theorem fits_eq_false_iff {text : String} {column maxWidth : Nat} :
    fits text column maxWidth = false ↔ 0 < maxWidth ∧ maxWidth < column + text.utf8ByteSize := by
  rw [fits, Bool.or_eq_false_iff, beq_eq_false_iff_ne, decide_eq_false_iff_not]
  omega

/-- A text is left as it is if there is no limit, if it fits, or if it has no parenthesis.
Any other text that is properly nested is broken behind each comma that stands directly in
its first parenthesis, and behind each one that stands directly in a group which follows
beside the parenthesis or beside a group around it.  Only the first parenthesis is broken
exactly if no such group holds a comma. -/
theorem wrapParameters_breaks_first_iff (line : String) (column maxWidth : Nat) :
    (maxWidth = 0 ∨ column + line.utf8ByteSize ≤ maxWidth ∨ '(' ∉ line.toList →
      wrapParameters line column maxWidth = line) ∧
    ∀ items : List Bracketed, nested items = true → text items = line.toList →
      0 < maxWidth → maxWidth < column + line.utf8ByteSize → '(' ∈ line.toList →
      ∃ f, firstParenthesis? items = some f ∧ f.Splits line.toList ∧
        wrapParameters line column maxWidth = .ofList (f.brokenToEnd (f.indent column)) ∧
        (wrapParameters line column maxWidth = .ofList (f.broken (f.indent column)) ↔
          ∀ item ∈ f.behind, item.commas = 0) := by
  constructor
  · intro h
    rw [← or_assoc] at h
    rcases h with hfits | hno
    · apply wrapParameters_of_fits
      rw [← Bool.not_eq_false, fits_eq_false_iff]
      omega
    · exact wrapParameters_of_no_parenthesis column maxWidth hno
  · intro items hnested htext hpos hwide hmem
    -- the text has a parenthesis, so it has a first one
    rcases splits_of_firstParenthesis? hnested with ⟨_, hno⟩ | ⟨f, hf, hsplits⟩
    · exact absurd (htext ▸ hmem) hno
    · rw [htext] at hsplits
      have hfits : fits (.ofList line.toList) column maxWidth = false := by
        rw [String.ofList_toList]
        exact fits_eq_false_iff.mpr ⟨hpos, hwide⟩
      have heq := hsplits.wrapParameters_eq hfits
      rw [String.ofList_toList] at heq
      refine ⟨f, hf, hsplits, heq, ?_⟩
      -- both texts agree up to the first parenthesis, so they differ in the groups behind it
      rw [heq, ← flatMap_breakInside_eq_iff (f.indent column), String.ofList_inj]
      simp only [FirstParenthesis.brokenToEnd, FirstParenthesis.broken,
        List.append_cancel_left_eq, List.cons.injEq, true_and]

/-- A sequence of single characters. -/
def chars (text : String) : List Bracketed :=
  text.toList.map .char

/-- A parameter with a comma between angle brackets of its own, and one behind it. -/
theorem wrapParameters_breaks_first_of_pair :
    let items := chars "void vkFoo" ++
      [group .round (chars "std::pair" ++ [group .angle (chars "int, int")] ++ chars " a, int b"),
        char ';']
    let line := "void vkFoo(std::pair<int, int> a, int b);"
    nested items = true ∧ text items = line.toList ∧
      wrapParameters line 2 10 =
        .ofList "void vkFoo(std::pair<int, int> a,\n             int b);".toList := by
  intro items line
  have hnested : nested items = true := by decide +kernel
  have htext : text items = line.toList := by decide +kernel
  obtain ⟨f, hf, _, _, hwrap⟩ := (wrapParameters_breaks_first_iff line 2 10).2 items hnested htext
    (by decide) (by decide +kernel) (by decide +kernel)
  -- only the semicolon stands behind the parenthesis
  have hbehind : (firstParenthesis? items).all (fun f => f.behind.all (·.commas == 0)) = true := by
    decide +kernel
  have hbroken : (firstParenthesis? items).map (fun f => f.broken (f.indent 2)) =
      some "void vkFoo(std::pair<int, int> a,\n             int b);".toList := by decide +kernel
  rw [hf] at hbehind hbroken
  have hnone : ∀ item ∈ f.behind, item.commas = 0 := fun item hitem =>
    eq_of_beq (List.all_eq_true.mp hbehind item hitem)
  refine ⟨hnested, htext, ?_⟩
  rw [hwrap.mpr hnone]
  exact congrArg String.ofList (Option.some.inj hbroken)

/-- The declarator of a pointer to a function: its parameters are not in the first
parenthesis, and still they are broken. -/
theorem not_wrapParameters_breaks_first :
    ¬∀ (items : List Bracketed) (f : FirstParenthesis), nested items = true →
      firstParenthesis? items = some f → ∀ column maxWidth : Nat, 0 < maxWidth →
        maxWidth < column + (String.ofList (text items)).utf8ByteSize →
        wrapParameters (.ofList (text items)) column maxWidth =
          .ofList (f.broken (f.indent column)) := by
  intro hclaim
  let items := chars "void " ++
    [group .round (chars "*pfn"), group .round (chars "int a, int b"), char ';']
  let f : FirstParenthesis :=
    ⟨"void ".toList, chars "*pfn", [group .round (chars "int a, int b"), char ';']⟩
  have hnested : nested items = true := by decide +kernel
  have hwide : 10 < 0 + (String.ofList (text items)).utf8ByteSize := by decide +kernel
  -- the first parenthesis is that of the pointer, and the parameters stand in a group behind it
  have hsplits : f.Splits (text items) :=
    ⟨by decide +kernel, by decide +kernel, by decide +kernel, by decide +kernel⟩
  have hwrap := hsplits.wrapParameters_eq (fits_eq_false_iff.mpr ⟨by decide, hwide⟩)
  rw [hclaim items f hnested rfl 0 10 (by decide) hwide, String.ofList_inj] at hwrap
  exact absurd hwrap (by decide +kernel)

end VulkanGen.Layout
