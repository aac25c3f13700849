import VulkanGen.Header.Shift
import VulkanGen.Proofs.Header.Accounting

/-!
# Headers are read piece by piece

A text that ends where a line ends and leaves no declaration open can be followed by any
other text: what it declares stays as it is, and what the other text declares moves down
by as many lines as there are in front of it.  The scanner carries nothing over but the
number of the next line, and the number of a line is only copied, into a span and from
there into a prototype or a diagnostic.

So a complete part of a header can be replaced by another one of the same length, and
nothing changes around it.

## Key results

- `Extraction.ofLinesFrom_shift`: lines that are numbered from further down
- `Prototype.ofSpan_shift`: a declaration that starts further down
- `Header.parse_append`: the two laws
-/

namespace VulkanGen

/-- A span that is open and starts further down. -/
def OpenSpan.shift (s : OpenSpan) (lines : Nat) : OpenSpan :=
  { s with line := s.line + lines }

namespace Extraction

/-- An extraction that starts further down. -/
def shift (e : Extraction) (lines : Nat) : Extraction :=
  ⟨e.spans.map (·.shift lines), e.unterminated.map (·.shift lines)⟩

/-- A line further down reaches the same span, further down. -/
private theorem reach_shift (lineNo : Nat) (current : Option OpenSpan) (line : List Char)
    (n : Nat) :
    reach (lineNo + n) (current.map (·.shift n)) line =
      (reach lineNo current line).map (·.shift n) := by
  cases current with
  | some s => rfl
  | none =>
    unfold reach
    by_cases hopens : opensSpan line = true
    · simp only [Option.map_none, hopens, if_true]
      rfl
    · simp only [Option.map_none, hopens, Bool.false_eq_true, if_false]

/-- Lines that are numbered from further down hold the same spans, further down. -/
theorem ofLinesFrom_shift (lineNo : Nat) (current : Option OpenSpan) (lines : List (List Char))
    (n : Nat) :
    ofLinesFrom (lineNo + n) (current.map (·.shift n)) lines =
      (ofLinesFrom lineNo current lines).shift n := by
  induction lines generalizing lineNo current with
  | nil => rfl
  | cons line lines ih =>
    have hnext : lineNo + n + 1 = lineNo + 1 + n := by omega
    -- the same span is reached, so both scans take the same branch
    simp only [ofLinesFrom, reach_shift, hnext]
    cases reach lineNo current (Text.dropReturn line) with
    | none => exact ih (lineNo + 1) none
    | some s =>
      simp only [Option.map_some]
      by_cases hcloses : closesSpan (Text.dropReturn line) = true
      · -- behind the span nothing is open, which is the same further down
        have hlater := ih (lineNo + 1) none
        rw [Option.map_none] at hlater
        simp only [hcloses, if_true, hlater]
        rfl
      · simp only [hcloses, Bool.false_eq_true, if_false]
        exact ih (lineNo + 1) (some s)

end Extraction

/-! ## Reading further down -/

/-- A step goes in front of a change to the result. -/
private theorem bind_eq_map_bind {α β : Type} {x : Except Malformation α}
    {f g : α → Except Malformation β} (k : β → β) (h : ∀ a, g a = (f a).map k) :
    (x >>= g) = (x >>= f).map k := by
  cases x with
  | error cause => rfl
  | ok a => exact h a

/-- The line of a declaration is not looked at. -/
private theorem Declaration.declaration_shift (line n : Nat) (tokens : List Token) :
    declaration (line + n) tokens = (declaration line tokens).map (·.shift n) := by
  unfold declaration
  -- the markers, the return type, the name and the parameters with the marks around them
  apply bind_eq_map_bind
  intro ⟨_, tokens⟩
  apply bind_eq_map_bind
  intro ⟨type, tokens⟩
  apply bind_eq_map_bind
  intro ⟨_, tokens⟩
  apply bind_eq_map_bind
  intro ⟨name, tokens⟩
  apply bind_eq_map_bind
  intro ⟨_, tokens⟩
  apply bind_eq_map_bind
  intro ⟨parameters, tokens⟩
  apply bind_eq_map_bind
  intro ⟨_, tokens⟩
  apply bind_eq_map_bind
  intro ⟨_, tokens⟩
  -- the line is written into the prototype only here, where all tokens are read
  cases tokens with
  | nil => rfl
  | cons extra tokens => rfl

/-- A declaration that starts further down is read as the same declaration. -/
theorem Prototype.ofSpan_shift (span : Span) (n : Nat) :
    ofSpan (span.shift n) = (ofSpan span).map (·.shift n) := by
  have htext : (span.shift n).text = span.text := rfl
  unfold ofSpan
  rw [htext]
  -- the text decides whether the span is parsed at all
  by_cases hparen : span.text.toList.contains '(' = true
  · simp only [hparen, if_true]
    cases Token.tokenize span.text with
    | error e => rfl
    | ok tokens => exact Declaration.declaration_shift span.line n tokens
  · simp only [hparen, Bool.false_eq_true, if_false]
    rfl

namespace Span

/-- Spans further down declare the same, further down. -/
private theorem prototypes_shift (spans : List Span) (n : Nat) :
    prototypes (spans.map (·.shift n)) = (prototypes spans).map (·.shift n) := by
  unfold prototypes
  rw [List.filterMap_map, List.map_filterMap]
  congr 1
  funext span
  show (Prototype.ofSpan (span.shift n)).toOption = _
  rw [Prototype.ofSpan_shift]
  cases Prototype.ofSpan span <;> rfl

/-- They are malformed in the same way. -/
private theorem malformed_shift (spans : List Span) (n : Nat) :
    malformed (spans.map (·.shift n)) = (malformed spans).map (·.shift n) := by
  unfold malformed
  rw [List.filterMap_map, List.map_filterMap]
  congr 1
  funext span
  simp only [Function.comp_apply, Prototype.ofSpan_shift]
  cases Prototype.ofSpan span <;> rfl

end Span

/-- An extraction further down has the same diagnostics, further down. -/
private theorem Extraction.diagnostics_shift (e : Extraction) (n : Nat) :
    (e.shift n).diagnostics = e.diagnostics.map (·.shift n) := by
  unfold diagnostics
  rw [List.map_append]
  congr 1
  · exact Span.malformed_shift e.spans n
  · show ((e.unterminated.map (·.shift n)).map (·.diagnostic)).toList = _
    cases e.unterminated <;> rfl

namespace Header

/-- Whether a header ends where a line ends and leaves no declaration open. -/
structure Complete (h : Header) : Prop where
  ends : Text.EndsInBreak h.text.toList
  closed : ∀ line text, .unterminated line text ∉ h.parse.diagnostics

/-- No diagnostic of an open declaration means that none is open. -/
private theorem complete_iff (h : Header) :
    h.Complete ↔
      Text.EndsInBreak h.text.toList ∧ (Extraction.ofLines h.lines).unterminated = none := by
  constructor
  · -- an open span would be diagnosed
    intro hc
    refine ⟨hc.ends, ?_⟩
    cases hopen : (Extraction.ofLines h.lines).unterminated with
    | none => rfl
    | some s =>
      have hmem := (Extraction.unterminated_mem_diagnostics_iff _ s.line s.text).mpr
        ⟨s, hopen, rfl, rfl⟩
      exact absurd hmem (hc.closed s.line s.text)
  · -- and only an open span is
    intro ⟨hends, hnone⟩
    refine ⟨hends, ?_⟩
    intro line text hmem
    obtain ⟨s, hs, _⟩ := (Extraction.unterminated_mem_diagnostics_iff _ line text).mp hmem
    exact nomatch hnone.symm.trans hs

/-- Both halves can be decided, the second by what the extraction leaves open. -/
instance (h : Header) : Decidable h.Complete :=
  have : Decidable (Text.EndsInBreak h.text.toList) :=
    -- only the last character is looked at, not every one there is
    decidable_of_iff (h.text.toList.getLast?.all (· == '\n') = true)
      (by simp [Text.EndsInBreak, Option.all_eq_true])
  decidable_of_iff _ h.complete_iff.symm

variable {name a b : String}

/-- Behind a complete text the spans are those of the text and those of what follows,
further down. -/
private theorem extraction_append (ha : (Header.mk name a).Complete) :
    Extraction.ofLines (Header.mk name (a ++ b)).lines =
      let below := (Extraction.ofLines (Header.mk name b).lines).shift
        (Header.mk name a).lines.length
      ⟨(Extraction.ofLines (Header.mk name a).lines).spans ++ below.spans,
        below.unterminated⟩ := by
  -- a complete text ends its last line, so no line is shared by both texts
  have hlines : (Header.mk name (a ++ b)).lines =
      (Header.mk name a).lines ++ (Header.mk name b).lines := by
    show Text.lines (a ++ b).toList = _
    rw [String.toList_append, Text.lines_append ha.ends]
    rfl
  have hnone := ((Header.mk name a).complete_iff.mp ha).2
  unfold Extraction.ofLines at hnone ⊢
  have hshift := Extraction.ofLinesFrom_shift 1 none (Header.mk name b).lines
    (Header.mk name a).lines.length
  rw [Option.map_none] at hshift
  -- the scan of the second text starts with nothing open, as if alone
  rw [hlines, Extraction.ofLinesFrom_append, hnone, hshift]

/-- The prototypes of a complete text and of what follows it. -/
theorem prototypes_append (ha : (Header.mk name a).Complete) :
    (Header.mk name (a ++ b)).parse.prototypes = (Header.mk name a).parse.prototypes ++
      (Header.mk name b).parse.prototypes.map (·.shift (Header.mk name a).lines.length) := by
  show Span.prototypes (Extraction.ofLines (Header.mk name (a ++ b)).lines).spans = _
  rw [extraction_append ha]
  show Span.prototypes (_ ++ _) = _
  rw [Span.prototypes_append]
  congr 1
  exact Span.prototypes_shift _ _

/-- The diagnostics of a complete text and of what follows it. -/
private theorem diagnostics_append (ha : (Header.mk name a).Complete) :
    (Header.mk name (a ++ b)).parse.diagnostics = (Header.mk name a).parse.diagnostics ++
      (Header.mk name b).parse.diagnostics.map (·.shift (Header.mk name a).lines.length) := by
  have hnone := ((Header.mk name a).complete_iff.mp ha).2
  show (Extraction.ofLines (Header.mk name (a ++ b)).lines).diagnostics =
    (Extraction.ofLines (Header.mk name a).lines).diagnostics ++
      (Extraction.ofLines (Header.mk name b).lines).diagnostics.map _
  rw [extraction_append ha, ← Extraction.diagnostics_shift]
  -- nothing stands between the spans of the two texts, as none is left open in the first
  unfold Extraction.diagnostics
  rw [hnone, Option.map_none, Option.toList_none, List.append_nil, ← List.append_assoc]
  congr 1
  exact Span.malformed_append _ _

/-- A complete text declares the same whatever follows it, and what follows it declares the
same further down.  So a complete part between two others can be replaced by a part of the
same length, and nothing changes around it. -/
theorem parse_append (name : String) :
    (∀ a b : String, (Header.mk name a).Complete →
      let above := (Header.mk name a).parse
      let below := (Header.mk name b).parse
      let whole := (Header.mk name (a ++ b)).parse
      let n := (Header.mk name a).lines.length
      whole.prototypes = above.prototypes ++ below.prototypes.map (·.shift n) ∧
        whole.diagnostics = above.diagnostics ++ below.diagnostics.map (·.shift n)) ∧
    ∀ front part other back : String, (Header.mk name front).Complete →
      (Header.mk name part).Complete → (Header.mk name other).Complete →
      (Header.mk name part).lines.length = (Header.mk name other).lines.length →
      let n := (Header.mk name front).lines.length
      ∃ (above below : List Prototype) (aboveLeftOut belowLeftOut : List Diagnostic),
        ∀ middle ∈ [part, other],
          let whole := (Header.mk name (front ++ (middle ++ back))).parse
          whole.prototypes =
            above ++ (Header.mk name middle).parse.prototypes.map (·.shift n) ++ below ∧
          whole.diagnostics =
            aboveLeftOut ++ (Header.mk name middle).parse.diagnostics.map (·.shift n) ++
              belowLeftOut := by
  refine ⟨fun a b ha => ⟨prototypes_append ha, diagnostics_append ha⟩, ?_⟩
  intro front part other back hfront hpart hother hlength n
  -- what stands below the part moves down by its length, and that is the same for both
  let m := (Header.mk name part).lines.length
  refine ⟨(Header.mk name front).parse.prototypes,
    ((Header.mk name back).parse.prototypes.map (·.shift m)).map (·.shift n),
    (Header.mk name front).parse.diagnostics,
    ((Header.mk name back).parse.diagnostics.map (·.shift m)).map (·.shift n), ?_⟩
  intro middle hmiddle whole
  have hcomplete : (Header.mk name middle).Complete ∧
      (Header.mk name middle).lines.length = m := by
    rcases List.mem_pair.mp hmiddle with rfl | rfl
    · exact ⟨hpart, rfl⟩
    · exact ⟨hother, hlength.symm⟩
  obtain ⟨hclosed, hm⟩ := hcomplete
  -- the same cut twice: behind the front, and behind the part
  constructor
  · rw [prototypes_append hfront, prototypes_append hclosed, hm, List.map_append,
      List.append_assoc]
  · rw [diagnostics_append hfront, diagnostics_append hclosed, hm, List.map_append,
      List.append_assoc]

/-- A text of two lines with a declaration that is left out, and a declaration below it.
The text can be replaced by two empty lines. -/
theorem parse_append_of_malformed :
    let above := "\nVKAPI_ATTR VKAPI_CALL();\n"
    let other := "\n\n"
    let below := "VKAPI_ATTR int VKAPI_CALL f(\nint a);\n"
    let parse := fun text => (Header.mk "a.h" text).parse
    (Header.mk "a.h" above).Complete ∧ (Header.mk "a.h" other).Complete ∧
      (parse (above ++ below)).prototypes = [⟨"f", "int", ⟨[⟨"a", "int", none⟩]⟩, 3⟩] ∧
      (parse (above ++ below)).diagnostics.map (·.line) = [2] ∧
      ∃ front back : List Prototype, ∀ middle ∈ [above, other],
        (parse ("" ++ (middle ++ below))).prototypes =
          front ++ (parse middle).prototypes.map (·.shift (Header.mk "a.h" "").lines.length) ++
            back := by
  intro above other below parse
  -- the three parts are complete, and the two middle ones have as many lines
  have hempty : (Header.mk "a.h" "").Complete := by decide +kernel
  have habove : (Header.mk "a.h" above).Complete := by decide +kernel
  have hother : (Header.mk "a.h" other).Complete := by decide +kernel
  have hlength : (Header.mk "a.h" above).lines.length = (Header.mk "a.h" other).lines.length := by
    decide +kernel
  obtain ⟨happend, hreplace⟩ := parse_append "a.h"
  obtain ⟨hprototypes, hdiagnostics⟩ := happend above below habove
  obtain ⟨front, back, _, _, hwhole⟩ :=
    hreplace "" above other below hempty habove hother hlength
  refine ⟨habove, hother, ?_, ?_, front, back, fun middle hmiddle => (hwhole middle hmiddle).1⟩
  · -- each part is read by itself, and the second one moves down
    show (Header.mk "a.h" (above ++ below)).parse.prototypes = _
    rw [hprototypes]
    decide +kernel
  · show (Header.mk "a.h" (above ++ below)).parse.diagnostics.map _ = _
    rw [hdiagnostics]
    decide +kernel

end Header

end VulkanGen
