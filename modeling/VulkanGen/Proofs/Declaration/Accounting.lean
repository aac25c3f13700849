import VulkanGen.Proofs.Declaration.OpenSpans

/-!
# Spans account for the lines of a header

A span covers the lines from the one that opens it to the first one from there on that
holds the terminator, and the next span starts further down.  A line that holds both
markers is never lost: it opens a span, or it is inside the span that is open in front of
it.

`Extraction.Accounts` says this of an extraction and the lines that it was made from.  It
holds of no lines, one more line keeps it, and so it holds of every header.

## Key results

- `Extraction.Accounts.step`: what one more line does to an extraction
- `Extraction.accounts_ofLines`: the spans of a header account for its lines
-/

namespace VulkanGen

/-- The lines that a span covers. -/
def Span.block (span : Span) (lines : List (List Char)) : List (List Char) :=
  (lines.take span.endLine).drop (span.line - 1)

/-- The lines that a span has taken in. -/
def OpenSpan.block (s : OpenSpan) (lines : List (List Char)) : List (List Char) :=
  lines.drop (s.line - 1)

/-- Whether a span is made of some lines: its first line holds both markers, its last line
is the first one that holds the terminator, and its text is these lines, each without the
carriage return that it may end in, with single spaces between them. -/
structure Span.IsIn (lines : List (List Char)) (span : Span) : Prop where
  line_pos : 0 < span.line
  line_le : span.line ≤ span.endLine
  endLine_le : span.endLine ≤ lines.length
  opens : ∃ first ∈ (span.block lines).head?, opensSpan first = true
  closes : ∃ last ∈ (span.block lines).getLast?, closesSpan last = true
  closes_first : ∀ line ∈ (span.block lines).dropLast, closesSpan line = false
  text_eq : ∃ bares, List.Forall₂ Text.WithoutReturn (span.block lines) bares ∧
    span.text = .ofList ([' '].intercalate bares)

/-- Whether a span has taken in the lines from its first one on.  Only the last of them
may hold the terminator. -/
structure OpenSpan.IsIn (lines : List (List Char)) (s : OpenSpan) : Prop where
  line_pos : 0 < s.line
  opens : ∃ first ∈ (s.block lines).head?, opensSpan first = true
  closes_first : ∀ line ∈ (s.block lines).dropLast, closesSpan line = false
  newest_eq : List.Forall₂ Text.WithoutReturn (s.block lines) s.newest.reverse

/-- Lines lose their carriage returns in one way only. -/
theorem forall₂_withoutReturn_iff {lines bares : List (List Char)} :
    List.Forall₂ Text.WithoutReturn lines bares ↔ bares = lines.map Text.dropReturn := by
  have hline : Text.WithoutReturn = fun line bare => Text.dropReturn line = bare := by
    funext line bare
    exact propext (Text.withoutReturn_iff.trans eq_comm)
  rw [hline, ← List.forall₂_map_left_iff, List.forall₂_eq_eq_eq, eq_comm]

namespace OpenSpan

/-- A span starts on one of the lines that it is made of. -/
theorem IsIn.line_le {lines : List (List Char)} {s : OpenSpan} (h : s.IsIn lines) :
    s.line ≤ lines.length := by
  have hpos := h.line_pos
  obtain ⟨first, hfirst, _⟩ := h.opens
  by_cases hlt : s.line - 1 < lines.length
  · omega
  · -- a span behind the last line has no first line
    have hnil : s.block lines = [] := List.drop_eq_nil_of_le (by omega)
    rw [hnil] at hfirst
    exact nomatch hfirst

/-- Its text is these lines, joined by spaces. -/
theorem IsIn.text_eq {lines : List (List Char)} {s : OpenSpan} (h : s.IsIn lines) :
    s.text = .ofList ([' '].intercalate ((s.block lines).map Text.dropReturn)) := by
  rw [OpenSpan.text, forall₂_withoutReturn_iff.mp h.newest_eq]

/-- One more line is taken in behind the others. -/
private theorem block_concat {s : OpenSpan} {lines : List (List Char)} (line : List Char)
    (h : s.line - 1 ≤ lines.length) :
    s.block (lines ++ [line]) = s.block lines ++ [line] := by
  unfold block
  rw [List.drop_append_of_le_length h]

/-- A span that no line has ended takes one more line in. -/
theorem IsIn.push {lines : List (List Char)} {s : OpenSpan} (h : s.IsIn lines)
    (hopen : ∀ line ∈ s.block lines, closesSpan line = false) (line : List Char) :
    (s.push (Text.dropReturn line)).IsIn (lines ++ [line]) := by
  have hle := h.line_le
  -- the block ends with the new line, and the others may not end the span
  have hblock : (s.push (Text.dropReturn line)).block (lines ++ [line]) =
      s.block lines ++ [line] := block_concat line (show s.line - 1 ≤ lines.length by omega)
  obtain ⟨first, hfirst, hopens⟩ := h.opens
  constructor
  · exact h.line_pos
  · refine ⟨first, ?_, hopens⟩
    rw [Option.mem_def] at hfirst ⊢
    rw [hblock, List.head?_append, hfirst, Option.some_or]
  · rw [hblock, List.dropLast_concat]
    exact hopen
  · rw [forall₂_withoutReturn_iff, hblock, List.map_append,
      ← forall₂_withoutReturn_iff.mp h.newest_eq]
    -- the newest line stands first
    show (Text.dropReturn line :: s.newest).reverse = _
    rw [List.reverse_cons, List.map_singleton]

/-- A line with both markers starts a span. -/
private theorem isIn_start (lines : List (List Char)) {line : List Char}
    (h : opensSpan line = true) :
    (start (lines.length + 1) (Text.dropReturn line)).IsIn (lines ++ [line]) := by
  have hblock : (start (lines.length + 1) (Text.dropReturn line)).block (lines ++ [line]) =
      [line] := by
    show (lines ++ [line]).drop lines.length = [line]
    exact List.drop_left
  constructor
  · exact Nat.succ_pos lines.length
  · exact ⟨line, by rw [hblock]; rfl, h⟩
  · rw [hblock]
    exact fun _ hmem => nomatch hmem
  · rw [forall₂_withoutReturn_iff, hblock]
    rfl

/-- A line that holds the terminator ends the span. -/
theorem IsIn.close {lines : List (List Char)} {s : OpenSpan} (h : s.IsIn lines)
    (hcloses : ∃ last ∈ lines.getLast?, closesSpan last = true) :
    (s.close lines.length).IsIn lines := by
  have hle := h.line_le
  have hpos := h.line_pos
  have hblock : (s.close lines.length).block lines = s.block lines := by
    show (lines.take lines.length).drop (s.line - 1) = lines.drop (s.line - 1)
    rw [List.take_length]
  -- the last line of the block is the last of all lines
  have hlast : (s.block lines).getLast? = lines.getLast? := by
    unfold block
    rw [List.getLast?_drop, if_neg (by omega)]
  exact
    { line_pos := hpos
      line_le := hle
      endLine_le := Nat.le_refl _
      opens := by rw [hblock]; exact h.opens
      closes := by rw [hblock, hlast]; exact hcloses
      closes_first := by rw [hblock]; exact h.closes_first
      text_eq := by rw [hblock]; exact ⟨_, h.newest_eq, rfl⟩ }

end OpenSpan

/-- A span is still one of the lines when another line follows. -/
theorem Span.IsIn.concat {lines : List (List Char)} {span : Span} (h : span.IsIn lines)
    (line : List Char) : span.IsIn (lines ++ [line]) := by
  have hblock : span.block (lines ++ [line]) = span.block lines := by
    unfold block
    rw [List.take_append_of_le_length h.endLine_le]
  have hle := h.endLine_le
  exact
    { line_pos := h.line_pos
      line_le := h.line_le
      endLine_le := by rw [List.length_append]; omega
      opens := by rw [hblock]; exact h.opens
      closes := by rw [hblock]; exact h.closes
      closes_first := by rw [hblock]; exact h.closes_first
      text_eq := by rw [hblock]; exact h.text_eq }

namespace Extraction

/-- Whether a line lies in one of the spans or in the one that is left open. -/
def Covers (e : Extraction) (lineNo : Nat) : Prop :=
  (∃ span ∈ e.spans, span.line ≤ lineNo ∧ lineNo ≤ span.endLine) ∨
    ∃ s ∈ e.unterminated, s.line ≤ lineNo

/-- Whether an extraction accounts for some lines: its spans are made of them, one below
the other, the span that is left open is the last one, and every line that holds both
markers lies in one of them. -/
structure Accounts (lines : List (List Char)) (e : Extraction) : Prop where
  spans : ∀ span ∈ e.spans, span.IsIn lines
  ascending : e.spans.Pairwise fun a b => a.endLine < b.line
  unterminated : ∀ s ∈ e.unterminated, s.IsIn lines ∧
    (∀ line ∈ s.block lines, closesSpan line = false) ∧ ∀ span ∈ e.spans, span.endLine < s.line
  covers : ∀ i line, lines[i]? = some line → opensSpan line = true → e.Covers (i + 1)

/-- No lines are accounted for by no spans. -/
private theorem accounts_nil : Accounts [] ⟨[], none⟩ where
  spans := fun _ h => nomatch h
  ascending := .nil
  unterminated := fun _ h => nomatch h
  covers := fun _ _ h => nomatch h

variable {lines : List (List Char)} {e : Extraction} {line : List Char}

/-- What holds of the lines and of one more line holds of all of them. -/
private theorem forall_getElem?_concat {P : Nat → List Char → Prop}
    (h : ∀ i line, lines[i]? = some line → P i line) (hlast : P lines.length line) :
    ∀ i other, (lines ++ [line])[i]? = some other → P i other := by
  intro i other hother
  -- an index is that of one of the lines, or of the new one behind them
  by_cases hi : i < lines.length
  · rw [List.getElem?_append_left hi] at hother
    exact h i other hother
  · obtain ⟨hle, hget⟩ := List.getElem?_eq_some_iff.mp hother
    have heq : i = lines.length := by
      rw [List.length_append, List.length_singleton] at hle
      omega
    subst heq
    rw [List.getElem?_concat_length] at hother
    exact Option.some.inj hother ▸ hlast

/-- A line that opens nothing is passed over. -/
theorem Accounts.pass (h : Accounts lines e) (hnone : e.unterminated = none)
    (hopens : opensSpan line = false) : Accounts (lines ++ [line]) e where
  spans := fun span hspan => (h.spans span hspan).concat line
  ascending := h.ascending
  unterminated := fun s hs => nomatch hnone.symm.trans hs
  covers := by
    apply forall_getElem?_concat h.covers
    intro hmarkers
    exact nomatch hopens.symm.trans hmarkers

/-- A span that takes in the last of some lines, below spans that account for the lines
in front of it. -/
structure Reaches (lines : List (List Char)) (above : List Span) (s : OpenSpan) : Prop where
  spans : ∀ span ∈ above, span.IsIn lines
  ascending : above.Pairwise fun a b => a.endLine < b.line
  isIn : s.IsIn lines
  below : ∀ span ∈ above, span.endLine < s.line
  covers : ∀ i line, lines[i]? = some line → opensSpan line = true →
    Covers ⟨above, some s⟩ (i + 1)

/-- The span that a line starts, or that goes on with it. -/
theorem Accounts.reaches (h : Accounts lines e) {s : OpenSpan}
    (hs : reach (lines.length + 1) e.unterminated (Text.dropReturn line) = some s) :
    Reaches (lines ++ [line]) e.spans s := by
  -- lines are only added at the end, where no closed span reaches
  have hspans : ∀ span ∈ e.spans, span.IsIn (lines ++ [line]) :=
    fun span hspan => (h.spans span hspan).concat line
  cases hopen : e.unterminated with
  | some t =>
    obtain ⟨hin, hlines, hbelow⟩ := h.unterminated t hopen
    rw [hopen] at hs
    obtain rfl := Option.some.inj hs
    have hle := hin.line_le
    refine ⟨hspans, h.ascending, hin.push hlines line, hbelow, ?_⟩
    apply forall_getElem?_concat
    · intro i other hother hmarkers
      rcases h.covers i other hother hmarkers with hclosed | ⟨u, hu, hstart⟩
      · exact .inl hclosed
      · obtain rfl := Option.some.inj (hopen.symm.trans hu)
        exact .inr ⟨_, rfl, hstart⟩
    · -- the line itself is in the span, whatever it holds
      intro _
      exact .inr ⟨_, rfl, Nat.le_succ_of_le hle⟩
  | none =>
    rw [hopen] at hs
    obtain ⟨hopens, hstart⟩ := Option.ite_none_right_eq_some.mp hs
    rw [opensSpan_dropReturn] at hopens
    obtain rfl := Option.some.inj hstart
    refine ⟨hspans, h.ascending, OpenSpan.isIn_start lines hopens, ?_, ?_⟩
    · intro span hspan
      exact Nat.lt_succ_of_le (h.spans span hspan).endLine_le
    · apply forall_getElem?_concat
      · -- a line further up is in a span that has ended
        intro i other hother hmarkers
        rcases h.covers i other hother hmarkers with hclosed | ⟨t, ht, _⟩
        · exact .inl hclosed
        · exact nomatch hopen.symm.trans ht
      · intro _
        exact .inr ⟨_, rfl, Nat.le_refl _⟩

/-- A last line with the terminator ends the span. -/
theorem Reaches.close {above : List Span} {s : OpenSpan} (h : Reaches lines above s)
    (hcloses : ∃ last ∈ lines.getLast?, closesSpan last = true) :
    Accounts lines ⟨above ++ [s.close lines.length], none⟩ where
  spans := by
    rw [List.forall_mem_append, List.forall_mem_singleton]
    exact ⟨h.spans, h.isIn.close hcloses⟩
  ascending := by
    rw [List.pairwise_append]
    -- the span that was open stands below all that ended before
    refine ⟨h.ascending, List.pairwise_singleton _ _, ?_⟩
    intro span hspan last hlast
    rw [List.mem_singleton.mp hlast]
    exact h.below span hspan
  unterminated := fun _ hs => nomatch hs
  covers := by
    -- what the open span held is now held by the one that it became
    intro i line hline hmarkers
    obtain ⟨hi, _⟩ := List.getElem?_eq_some_iff.mp hline
    rcases h.covers i line hline hmarkers with ⟨span, hspan, hbounds⟩ | ⟨t, ht, hle⟩
    · exact .inl ⟨span, List.mem_append_left _ hspan, hbounds⟩
    · obtain rfl := Option.some.inj ht
      exact .inl ⟨_, List.mem_concat_self, hle, hi⟩

/-- A last line without the terminator leaves the span open. -/
theorem Reaches.stay {above : List Span} {s : OpenSpan} (h : Reaches (lines ++ [line]) above s)
    (hcloses : closesSpan line = false) : Accounts (lines ++ [line]) ⟨above, some s⟩ where
  spans := h.spans
  ascending := h.ascending
  unterminated := by
    intro t ht
    obtain rfl := Option.some.inj ht
    refine ⟨h.isIn, ?_, h.below⟩
    have hpos := h.isIn.line_pos
    have hle := h.isIn.line_le
    rw [List.length_append, List.length_singleton] at hle
    -- the lines in front do not hold the terminator, and neither does the last one
    have hblock := OpenSpan.block_concat (s := s) line (show s.line - 1 ≤ lines.length by omega)
    have hfirst := h.isIn.closes_first
    rw [hblock, List.dropLast_concat] at hfirst
    rw [hblock, List.forall_mem_append, List.forall_mem_singleton]
    exact ⟨hfirst, hcloses⟩
  covers := h.covers

/-- One more line keeps an extraction in account. -/
theorem Accounts.step (h : Accounts lines e) (line : List Char) :
    let next := ofLinesFrom (lines.length + 1) e.unterminated [line]
    Accounts (lines ++ [line]) ⟨e.spans ++ next.spans, next.unterminated⟩ := by
  intro next
  -- a line that no span reaches is passed over
  cases hs : reach (lines.length + 1) e.unterminated (Text.dropReturn line) with
  | none =>
    -- an open span would be reached by any line
    have hnone : e.unterminated = none := by
      cases hopen : e.unterminated with
      | none => rfl
      | some t =>
        rw [hopen] at hs
        exact nomatch hs
    have hopens : opensSpan line = false := by
      rw [hnone] at hs
      rw [← opensSpan_dropReturn, Bool.eq_false_iff]
      intro hopens
      simp [reach, hopens] at hs
    have hnext : next = ⟨[], none⟩ := by simp [next, ofLinesFrom, hs]
    rw [hnext, List.append_nil, ← hnone]
    exact h.pass hnone hopens
  | some s =>
    -- a span that is reached ends here, or stays open
    have hreaches := h.reaches hs
    by_cases hcloses : closesSpan line = true
    · have hnext : next = ⟨[s.close (lines.length + 1)], none⟩ := by
        simp [next, ofLinesFrom, hs, closesSpan_dropReturn, hcloses]
      have hlast : ∃ last ∈ (lines ++ [line]).getLast?, closesSpan last = true :=
        ⟨line, List.getLast?_concat, hcloses⟩
      rw [hnext]
      have haccounts := hreaches.close hlast
      rw [List.length_append, List.length_singleton] at haccounts
      exact haccounts
    · rw [Bool.not_eq_true] at hcloses
      have hnext : next = ⟨[], some s⟩ := by
        simp [next, ofLinesFrom, hs, closesSpan_dropReturn, hcloses]
      rw [hnext, List.append_nil]
      exact hreaches.stay hcloses

/-- The spans of a header account for its lines. -/
theorem accounts_ofLines (lines : List (List Char)) : Accounts lines (ofLines lines) := by
  -- line by line from the front, as the scanner goes
  induction lines using List.reverseRecOn with
  | nil => exact accounts_nil
  | append_singleton lines line ih =>
    have hstep := ih.step line
    unfold ofLines
    rw [ofLinesFrom_append, Nat.add_comm 1]
    exact hstep

/-- A line that ends in a carriage return when its line break is gone loses that one too. -/
example : (ofLines ["VKAPI_ATTR void VKAPI_CALL vkA(\r".toList, "int a);".toList]).spans =
    [⟨1, 2, "VKAPI_ATTR void VKAPI_CALL vkA( int a);"⟩] := by decide +kernel

end Extraction

end VulkanGen
