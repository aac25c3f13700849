import Mathlib.Data.List.Induction
import Mathlib.Data.List.Infix
import VulkanGen.Proofs.Declaration.Spans
import VulkanGen.Proofs.List.Basic

/-!
# Which span a line belongs to

The scanner carries one bit of history from line to line: whether a span is open, and
since where.  Both can be read off the lines themselves.  A span is open behind some
lines if one of them holds both markers and no line from there on holds the
terminator; the markers in between mean nothing, so it does not matter which of them
was first.

A line that opens a span while none is open starts one.  Any other line is inside the
span that is open in front of it, or in none, and no span starts there.

## Key results

- `Extraction.unterminated_isSome_iff`: when lines leave a span open
- `Extraction.startsIn_ofLinesFrom`: spans start on the lines that they are read from
- `Extraction.text_of_mem_spans`: a span that is open goes on up to a terminator
-/

namespace VulkanGen

/-- A carriage return at the end of a line does not matter to the markers. -/
theorem opensSpan_dropReturn (line : List Char) :
    opensSpan (Text.dropReturn line) = opensSpan line := by
  rw [Bool.eq_iff_iff, opensSpan_iff, opensSpan_iff,
    Text.infix_dropReturn_iff (by decide) (by decide),
    Text.infix_dropReturn_iff (by decide) (by decide)]

/-- Nor does it to the terminator. -/
theorem closesSpan_dropReturn (line : List Char) :
    closesSpan (Text.dropReturn line) = closesSpan line := by
  rw [Bool.eq_iff_iff, closesSpan_iff, closesSpan_iff,
    Text.infix_dropReturn_iff (by decide) (by decide)]

/-- Whether lines leave a declaration open: one of them holds both markers, and neither
it nor a line behind it holds the terminator. -/
def LeavesOpen (lines : List (List Char)) : Prop :=
  ∃ tail ∈ lines.tails, (∃ first ∈ tail.head?, opensSpan first = true) ∧
    ∀ line ∈ tail, closesSpan line = false

/-- It can be decided, as lines have finitely many tails. -/
instance (lines : List (List Char)) : Decidable (LeavesOpen lines) :=
  inferInstanceAs (Decidable (∃ tail ∈ _, _))

/-- No lines leave nothing open. -/
private theorem not_leavesOpen_nil : ¬LeavesOpen [] := by
  rintro ⟨tail, htail, ⟨first, hfirst, _⟩, _⟩
  rw [List.mem_tails, List.suffix_nil] at htail
  rw [htail] at hfirst
  exact nomatch hfirst

/-- One more line leaves a declaration open if it does not end it, and there is one. -/
private theorem leavesOpen_concat (lines : List (List Char)) (line : List Char) :
    LeavesOpen (lines ++ [line]) ↔
      closesSpan line = false ∧ (LeavesOpen lines ∨ opensSpan line = true) := by
  constructor
  · rintro ⟨tail, htail, ⟨first, hfirst, hopens⟩, hlines⟩
    rw [List.mem_tails, List.suffix_concat_iff] at htail
    -- a tail of the longer list is empty or has the line at its end
    rcases htail with rfl | ⟨tail, rfl, htail⟩
    · exact nomatch hfirst
    · refine ⟨hlines line List.mem_concat_self, ?_⟩
      cases tail with
      | nil =>
        -- the line itself is the one with the markers
        obtain rfl : line = first := Option.some.inj hfirst
        exact .inr hopens
      | cons second tail =>
        refine .inl ⟨second :: tail, (List.mem_tails _ _).mpr htail, ⟨first, hfirst, hopens⟩, ?_⟩
        exact fun l hl => hlines l (List.mem_append_left _ hl)
  · rintro ⟨hcloses, ⟨tail, htail, ⟨first, hfirst, hopens⟩, hlines⟩ | hopens⟩
    · -- a tail that leaves a declaration open still does so with the line
      refine ⟨tail ++ [line], ?_, ⟨first, ?_, hopens⟩, ?_⟩
      · rw [List.mem_tails] at htail ⊢
        exact List.suffix_concat_iff.mpr (.inr ⟨tail, rfl, htail⟩)
      · rw [Option.mem_def] at hfirst ⊢
        rw [List.head?_append, hfirst, Option.some_or]
      · rw [List.forall_mem_append, List.forall_mem_singleton]
        exact ⟨hlines, hcloses⟩
    · refine ⟨[line], ?_, ⟨line, rfl, hopens⟩, List.forall_mem_singleton.mpr hcloses⟩
      exact (List.mem_tails _ _).mpr (List.suffix_append lines [line])

namespace Extraction

/-! ## The span that is left open -/

/-- Behind one more line a span is open if the line does not end it, and there is one. -/
private theorem unterminated_singleton_isSome_iff (lineNo : Nat) (current : Option OpenSpan)
    (line : List Char) :
    (ofLinesFrom lineNo current [line]).unterminated.isSome = true ↔
      closesSpan line = false ∧ (current.isSome = true ∨ opensSpan line = true) := by
  simp only [ofLinesFrom, reach, opensSpan_dropReturn, closesSpan_dropReturn]
  cases current with
  | some s => cases hcloses : closesSpan line <;> simp
  | none => cases hopens : opensSpan line <;> cases hcloses : closesSpan line <;> simp

/-- Behind lines a span is open exactly if they leave a declaration open. -/
theorem unterminated_isSome_iff (lineNo : Nat) (lines : List (List Char)) :
    (ofLinesFrom lineNo none lines).unterminated.isSome = true ↔ LeavesOpen lines := by
  induction lines using List.reverseRecOn with
  | nil => simp [not_leavesOpen_nil]
  | append_singleton lines line ih =>
    rw [ofLinesFrom_append, unterminated_singleton_isSome_iff, ih, leavesOpen_concat]

/-! ## Where spans start -/

/-- Whether a span that starts on `line` was open before, or starts on one of some lines. -/
def StartsIn (current : Option OpenSpan) (lineNo count line : Nat) : Prop :=
  (∃ s, current = some s ∧ line = s.line) ∨ (lineNo ≤ line ∧ line < lineNo + count)

/-- What starts in a piece starts in a longer one. -/
theorem StartsIn.mono {current : Option OpenSpan} {lineNo count more line : Nat}
    (h : StartsIn current lineNo count line) (hle : count ≤ more) :
    StartsIn current lineNo more line := by
  rcases h with hopen | hbounds
  · exact .inl hopen
  · exact .inr (by omega)

/-- A span that starts in a second piece starts in both, if what is open between the two
starts in the first one. -/
theorem StartsIn.trans {current between : Option OpenSpan} {lineNo count more line : Nat}
    (hbetween : ∀ s ∈ between, StartsIn current lineNo count s.line)
    (h : StartsIn between (lineNo + count) more line) :
    StartsIn current lineNo (count + more) line := by
  rcases h with ⟨s, hs, hline⟩ | hbounds
  · rw [hline]
    exact (hbetween s hs).mono (Nat.le_add_right count more)
  · exact .inr (by omega)

/-- A span that reaches a line was open before or starts there. -/
private theorem startsIn_of_reach {lineNo : Nat} {current : Option OpenSpan} {line : List Char}
    {s : OpenSpan} (h : reach lineNo current line = some s) :
    StartsIn current lineNo 1 s.line := by
  cases current with
  | some t =>
    cases h
    exact .inl ⟨t, rfl, rfl⟩
  | none =>
    obtain ⟨_, hstart⟩ := Option.ite_none_right_eq_some.mp h
    cases hstart
    exact .inr ⟨Nat.le_refl lineNo, Nat.lt_succ_self lineNo⟩

/-- A line ends a span, leaves one open or does neither; either way the span was open
before or starts on the line. -/
private theorem startsIn_singleton (lineNo : Nat) (current : Option OpenSpan) (line : List Char) :
    (∀ span ∈ (ofLinesFrom lineNo current [line]).spans,
      StartsIn current lineNo 1 span.line) ∧
    (∀ s ∈ (ofLinesFrom lineNo current [line]).unterminated,
      StartsIn current lineNo 1 s.line) := by
  rw [ofLinesFrom]
  cases hs : reach lineNo current (Text.dropReturn line) with
  | none => simp
  | some s =>
    have hstart := startsIn_of_reach hs
    cases closesSpan (Text.dropReturn line) <;> simpa [OpenSpan.close] using hstart

/-- A span starts on one of the lines it is read from, or it was open in front of them. -/
theorem startsIn_ofLinesFrom (lineNo : Nat) (current : Option OpenSpan)
    (lines : List (List Char)) :
    (∀ span ∈ (ofLinesFrom lineNo current lines).spans,
      StartsIn current lineNo lines.length span.line) ∧
    (∀ s ∈ (ofLinesFrom lineNo current lines).unterminated,
      StartsIn current lineNo lines.length s.line) := by
  induction lines generalizing lineNo current with
  | nil => exact ⟨fun span h => absurd h List.not_mem_nil, fun s h => .inl ⟨s, h, rfl⟩⟩
  | cons line lines ih =>
    obtain ⟨hspans, hopen⟩ := startsIn_singleton lineNo current line
    obtain ⟨hlater, hend⟩ :=
      ih (lineNo + 1) (ofLinesFrom lineNo current [line]).unterminated
    rw [← List.singleton_append, ofLinesFrom_append, List.length_append, List.length_singleton]
    refine ⟨fun span hspan => ?_, fun s hs => .trans hopen (hend s hs)⟩
    -- what is open between the line and the rest starts in the line or before
    rcases List.mem_append.mp hspan with hfirst | hbehind
    · exact (hspans span hfirst).mono (Nat.le_add_right 1 lines.length)
    · exact .trans hopen (hlater span hbehind)

/-- Where nothing was open, spans start on the lines that they are read from. -/
theorem bounds_of_mem_spans {lineNo : Nat} {lines : List (List Char)} {span : Span}
    (h : span ∈ (ofLinesFrom lineNo none lines).spans) :
    lineNo ≤ span.line ∧ span.line < lineNo + lines.length := by
  rcases (startsIn_ofLinesFrom lineNo none lines).1 span h with ⟨t, ht, _⟩ | hbounds
  · cases ht
  · exact hbounds

/-- A span that is left open starts on one of the lines. -/
theorem line_lt_of_unterminated {lineNo : Nat} {lines : List (List Char)} {s : OpenSpan}
    (h : (ofLinesFrom lineNo none lines).unterminated = some s) :
    s.line < lineNo + lines.length := by
  rcases (startsIn_ofLinesFrom lineNo none lines).2 s h with ⟨t, ht, _⟩ | hbounds
  · cases ht
  · exact hbounds.2

/-! ## The text of a span -/

/-- One more line goes behind a space. -/
private theorem text_push {s : OpenSpan} (h : s.newest ≠ []) (line : List Char) :
    (s.push line).text.toList = s.text.toList ++ ' ' :: line := by
  have hne : s.newest.reverse ≠ [] := by simpa using h
  simp only [OpenSpan.text, OpenSpan.push, List.reverse_cons, String.toList_ofList]
  rw [List.intercalate_concat _ hne, List.append_assoc, List.singleton_append]

/-- A span that is open in front of some lines takes lines up to a terminator. -/
theorem text_of_mem_spans {lineNo : Nat} {s : OpenSpan} {lines : List (List Char)} {span : Span}
    (hne : s.newest ≠ []) (hs : s.line < lineNo)
    (h : span ∈ (ofLinesFrom lineNo (some s) lines).spans) (hline : span.line = s.line) :
    ∃ behind, span.text.toList = s.text.toList ++ ' ' :: behind ∧
      terminator.toList <:+: behind := by
  induction lines generalizing lineNo s with
  | nil => exact absurd h List.not_mem_nil
  | cons line lines ih =>
    have htext := text_push hne (Text.dropReturn line)
    simp only [ofLinesFrom, reach] at h
    split at h
    · next hcloses =>
      rcases List.mem_cons.mp h with rfl | hlater
      · exact ⟨_, htext, (closesSpan_iff _).mp hcloses⟩
      · -- the spans behind the terminator start further down
        have hbounds := bounds_of_mem_spans hlater
        omega
    · -- the span goes on with this line, so the induction is on the longer span
      obtain ⟨behind, hbehind, hterminator⟩ :=
        ih (s := s.push (Text.dropReturn line)) (List.cons_ne_nil _ _) (Nat.lt_succ_of_lt hs) h
          hline
      refine ⟨Text.dropReturn line ++ ' ' :: behind, ?_, ?_⟩
      · rw [hbehind, htext, List.append_assoc, List.cons_append]
      · exact hterminator.trans ((List.suffix_cons _ _).trans (List.suffix_append _ _)).isInfix

end Extraction

end VulkanGen
