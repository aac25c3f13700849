import VulkanGen.Text.Lines

/-!
# Lines and their breaks

Texts are taken apart at their line breaks, from the first or from the last one on.
A text that ends where a line ends can be followed by another without a line of its
own changing.

## Key results

- `break_induction`: induction along the lines of a text
- `lines_append`: the lines of a text that ends in a break, and of what follows it
- `length_lines`: such a text has as many lines as breaks
- `infix_of_mem_lines`, `not_break_of_mem_lines`: a line is a part of its text without
  breaks
- `infix_dropReturn_iff`: a carriage return at the end of a line is no part of a marker
- `exists_last_break`: a text up to its last break, and its last line
-/

namespace VulkanGen.Text

/-- Whether a text ends where a line ends: it is empty, or its last character is a
line break. -/
def EndsInBreak (cs : List Char) : Prop :=
  ∀ c ∈ cs.getLast?, c = '\n'

/-! ## Taking texts apart -/

/-- A text with a break is its first line, the break and what follows. -/
theorem exists_first_break {cs : List Char} (h : '\n' ∈ cs) :
    ∃ line rest, cs = line ++ '\n' :: rest ∧ '\n' ∉ line :=
  List.eq_append_cons_of_mem h

/-- Induction along the lines of a text: it has no break, or it is a line, a break
and a shorter text. -/
@[elab_as_elim]
theorem break_induction {motive : List Char → Prop}
    (last : ∀ cs, '\n' ∉ cs → motive cs)
    (next : ∀ line rest, '\n' ∉ line → motive rest → motive (line ++ '\n' :: rest))
    (cs : List Char) : motive cs := by
  induction h : cs.length using Nat.strongRecOn generalizing cs with
  | ind n ih =>
    subst h
    -- a line may have any length, so the induction is on the length of the text
    by_cases hbreak : '\n' ∈ cs
    · obtain ⟨line, rest, rfl, hline⟩ := exists_first_break hbreak
      refine next line rest hline (ih rest.length ?_ rest rfl)
      simp only [List.length_append, List.length_cons]
      omega
    · exact last cs hbreak

/-- The empty text ends where a line ends. -/
private theorem endsInBreak_nil : EndsInBreak [] :=
  fun _ h => nomatch h

/-- How a text ends is how its last lines end. -/
private theorem endsInBreak_append_cons (line rest : List Char) :
    EndsInBreak (line ++ '\n' :: rest) ↔ EndsInBreak rest := by
  simp only [EndsInBreak, List.getLast?_append, List.getLast?_cons]
  cases rest.getLast? <;> simp

/-- A text without breaks that ends in one is empty. -/
private theorem EndsInBreak.eq_nil {cs : List Char} (h : EndsInBreak cs) (hbreak : '\n' ∉ cs) :
    cs = [] := by
  cases hlast : cs.getLast? with
  | none => exact List.getLast?_eq_none_iff.mp hlast
  | some c => exact absurd (h c hlast ▸ List.mem_of_getLast? hlast) hbreak

/-- A text up to its last break, and its last line. -/
theorem exists_last_break (cs : List Char) :
    ∃ front line, cs = front ++ line ∧ EndsInBreak front ∧ '\n' ∉ line := by
  induction cs using break_induction with
  | last cs h => exact ⟨[], cs, rfl, endsInBreak_nil, h⟩
  | next first rest _ ih =>
    obtain ⟨front, line, rfl, hfront, hline⟩ := ih
    exact ⟨first ++ '\n' :: front, line, by simp, (endsInBreak_append_cons _ _).mpr hfront, hline⟩

/-! ## Lines -/

/-- Only the empty text has no lines. -/
theorem lines_eq_nil_iff (cs : List Char) : lines cs = [] ↔ cs = [] := by
  by_cases hbreak : '\n' ∈ cs
  · obtain ⟨line, rest, rfl, hline⟩ := exists_first_break hbreak
    simp [lines_cons_break line rest hline]
  · cases cs with
    | nil => simp
    | cons c cs => simp [lines_of_no_break (List.cons_ne_nil c cs) hbreak]

/-- The lines of a text that ends in a break, and of what follows it. -/
theorem lines_append {as : List Char} (h : EndsInBreak as) (bs : List Char) :
    lines (as ++ bs) = lines as ++ lines bs := by
  induction as using break_induction with
  | last as hbreak =>
    -- a last line would be joined with the first one of `bs`
    rw [h.eq_nil hbreak, List.nil_append, lines_nil, List.nil_append]
  | next line rest hline ih =>
    rw [endsInBreak_append_cons] at h
    rw [List.append_assoc, List.cons_append, lines_cons_break _ _ hline,
      lines_cons_break _ _ hline, ih h, List.cons_append]

/-- A text that ends in a break has as many lines as breaks. -/
theorem length_lines {cs : List Char} (h : EndsInBreak cs) :
    (lines cs).length = cs.count '\n' := by
  induction cs using break_induction with
  | last cs hbreak => rw [h.eq_nil hbreak, lines_nil, List.length_nil, List.count_nil]
  | next line rest hline ih =>
    rw [endsInBreak_append_cons] at h
    rw [lines_cons_break _ _ hline, List.length_cons, ih h, List.count_append,
      List.count_eq_zero.mpr hline, List.count_cons_self, Nat.zero_add]

/-- A line without a break behind it is the only one. -/
theorem lines_break (line : List Char) (h : '\n' ∉ line) :
    lines (line ++ ['\n']) = [dropReturn line] := by
  rw [lines_cons_break line [] h, lines_nil]

/-! ## Carriage returns -/

/-- A line loses at most one carriage return at its end. -/
theorem eq_dropReturn_append (line : List Char) :
    line = dropReturn line ∨ line = dropReturn line ++ ['\r'] := by
  rw [dropReturn]
  split
  · next h =>
    obtain ⟨front, rfl⟩ := List.getLast?_eq_some_iff.mp h
    rw [List.dropLast_concat]
    exact .inr rfl
  · exact .inl rfl

/-- Whether a line without the carriage return that it may end in is a given one.  Of several
carriage returns only the last one goes. -/
def WithoutReturn (line bare : List Char) : Prop :=
  line = bare ++ ['\r'] ∨ line = bare ∧ bare.getLast? ≠ some '\r'

/-- There is one such line. -/
theorem withoutReturn_iff {line bare : List Char} :
    WithoutReturn line bare ↔ bare = dropReturn line := by
  rw [WithoutReturn, dropReturn]
  constructor
  · rintro (rfl | ⟨rfl, hlast⟩)
    · rw [if_pos List.getLast?_concat, List.dropLast_concat]
    · rw [if_neg hlast]
  · rintro rfl
    -- only the last character is looked at
    split
    · next hlast =>
      obtain ⟨front, rfl⟩ := List.getLast?_eq_some_iff.mp hlast
      exact .inl (by rw [List.dropLast_concat])
    · next hlast => exact .inr ⟨rfl, hlast⟩

/-- What is left of a line stands at its beginning. -/
theorem dropReturn_isPrefix (line : List Char) : dropReturn line <+: line := by
  rcases eq_dropReturn_append line with h | h
  · exact ⟨[], (List.append_nil _).trans h.symm⟩
  · exact ⟨['\r'], h.symm⟩

/-- A part of a line without a carriage return is kept. -/
theorem infix_dropReturn_iff {part line : List Char} (hne : part ≠ []) (h : '\r' ∉ part) :
    part <:+: dropReturn line ↔ part <:+: line := by
  refine ⟨fun hpart => hpart.trans (dropReturn_isPrefix line).isInfix, fun hpart => ?_⟩
  rcases eq_dropReturn_append line with hline | hline
  · rwa [← hline]
  · rw [hline, List.infix_concat_iff] at hpart
    rcases hpart with hend | hinside
    · -- a part at the end of the line would have the carriage return
      have hmem : '\r' ∈ part := by
        obtain ⟨front, hfront⟩ := hend
        rw [← List.dropLast_concat_getLast hne, ← List.append_assoc] at hfront
        have hlast : part.getLast hne = '\r' := (List.cons.inj (List.append_inj' hfront rfl).2).1
        exact hlast ▸ List.getLast_mem hne
      exact absurd hmem h
    · exact hinside

/-- The beginning of a line is kept if it does not end in a carriage return. -/
theorem isPrefix_dropReturn {front : List Char} (back : List Char)
    (h : front.getLast? ≠ some '\r') : front <+: dropReturn (front ++ back) := by
  rw [dropReturn]
  split
  · next hlast =>
    -- the carriage return is the last character of `back`
    cases back with
    | nil => exact absurd (by simpa using hlast) h
    | cons c back =>
      rw [List.dropLast_append_of_ne_nil (List.cons_ne_nil c back)]
      exact List.prefix_append _ _
  · exact List.prefix_append _ _

/-- A line is a part of its text. -/
theorem infix_of_mem_lines {cs line : List Char} (h : line ∈ lines cs) : line <:+: cs := by
  induction cs using break_induction with
  | last cs hbreak =>
    cases cs with
    | nil => simp at h
    | cons c cs =>
      rw [lines_of_no_break (List.cons_ne_nil c cs) hbreak, List.mem_singleton] at h
      exact h ▸ List.infix_rfl
  | next first rest hfirst ih =>
    rw [lines_cons_break _ _ hfirst, List.mem_cons] at h
    -- the first line may have lost its carriage return, so it is the beginning of a part
    rcases h with rfl | h
    · exact (dropReturn_isPrefix first).isInfix.trans (List.prefix_append _ _).isInfix
    · exact (ih h).trans (((List.suffix_cons _ _).trans (List.suffix_append _ _)).isInfix)

/-- No line has a line break in it. -/
theorem not_break_of_mem_lines {cs line : List Char} (h : line ∈ lines cs) : '\n' ∉ line := by
  induction cs using break_induction with
  | last cs hbreak => exact fun hmem => hbreak ((infix_of_mem_lines h).subset hmem)
  | next first rest hfirst ih =>
    rw [lines_cons_break _ _ hfirst, List.mem_cons] at h
    rcases h with rfl | h
    · exact fun hmem => hfirst ((dropReturn_isPrefix first).subset hmem)
    · exact ih h

/-- The first line of a text starts like the text. -/
theorem head?_lines (front back : List Char) (hfront : '\n' ∉ front)
    (hback : '\n' ∈ back) :
    ∃ rest, (lines (front ++ back)).head? = some (dropReturn (front ++ rest)) := by
  obtain ⟨line, later, rfl, hline⟩ := exists_first_break hback
  refine ⟨line, ?_⟩
  rw [← List.append_assoc, lines_cons_break _ _ (by simp [hfront, hline]), List.head?_cons]

end VulkanGen.Text
