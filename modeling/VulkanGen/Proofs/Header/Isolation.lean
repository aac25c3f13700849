import VulkanGen.Proofs.Declaration.OpenSpans
import VulkanGen.Proofs.Declaration.Unambiguous

/-!
# What a malformed declaration costs

A line that holds a whole declaration is read by itself if a span can start and end on
it: nothing is open in front of it, and the terminator stands on it.  Otherwise it is
lost.  A declaration that is open in front of it takes the line in, and without the
terminator the span goes on behind the declaration, which makes it unreadable.

So a malformed declaration costs only itself if a line of it holds the terminator.  One
that has none costs every line up to the next terminator.

## Key results

- `Extraction.line_ne_of_open`: no span starts on a line that an open span takes in
- `Prototype.not_ofSpan_append`: nothing can stand behind a declaration
- `Header.mem_prototypes_iff_of_line`: which declarations of one line are read
-/

namespace VulkanGen

namespace Prototype

/-- A prototype has the line of its span. -/
theorem line_of_ofSpan {span : Span} {p : Prototype} (h : ofSpan span = .ok p) :
    p.line = span.line := by
  obtain ⟨d, _, _, _, rfl⟩ := (ofSpan_eq_ok_iff span p).mp h
  rfl

/-- A carriage return at the end of a declaration does not matter. -/
private theorem ofSpan_dropReturn {line stop : Nat} {text : List Char} {p : Prototype}
    (h : ofSpan ⟨line, stop, .ofList text⟩ = .ok p) :
    ofSpan ⟨line, stop, .ofList (Text.dropReturn text)⟩ = .ok p := by
  rw [ofSpan_eq_ok_iff, String.toList_ofList] at h ⊢
  rwa [Token.lexemes?_dropReturn]

/-- A declaration holds both markers. -/
private theorem opensSpan_of_ofSpan {span : Span} {p : Prototype} (h : ofSpan span = .ok p) :
    opensSpan span.text.toList = true := by
  obtain ⟨d, _, _, hlexemes, _⟩ := (ofSpan_eq_ok_iff span p).mp h
  have hattribute : Lexeme.word attributeMarker ∈ d.lexemes := by simp [DeclarationForm.lexemes]
  have hcall : Lexeme.word callMarker ∈ d.lexemes := by simp [DeclarationForm.lexemes]
  exact (opensSpan_iff _).mpr ⟨Token.infix_of_mem_lexemes? hlexemes hattribute,
    Token.infix_of_mem_lexemes? hlexemes hcall⟩

/-- Nothing but blanks can stand behind a declaration. -/
theorem not_ofSpan_append {span other : Span} {p q : Prototype} {behind : List Char}
    (hp : ofSpan span = .ok p) (hother : other.text.toList = span.text.toList ++ ' ' :: behind)
    (hbehind : behind.all Text.isBlank = false) : ofSpan other ≠ .ok q := by
  intro hq
  obtain ⟨d, hd, _, hlexemes, _⟩ := (ofSpan_eq_ok_iff span p).mp hp
  obtain ⟨e, he, _, hotherLexemes, _⟩ := (ofSpan_eq_ok_iff other q).mp hq
  rw [hother, Token.lexemes?_append_blank _ _ Token.isBlank_space, hlexemes, Option.bind_some,
    Option.map_eq_some_iff] at hotherLexemes
  obtain ⟨later, hlater, happend⟩ := hotherLexemes
  -- the lexemes in front are those of a whole declaration already
  rw [← List.append_nil e.lexemes] at happend
  obtain ⟨_, rfl⟩ := DeclarationForm.append_inj hd he happend
  rw [Token.blank_of_lexemes?_eq_nil hlater] at hbehind
  exact nomatch hbehind

end Prototype

/-- The prototypes of spans are those that the spans are read as. -/
theorem Span.mem_prototypes_iff (spans : List Span) (p : Prototype) :
    p ∈ prototypes spans ↔ ∃ span ∈ spans, Prototype.ofSpan span = .ok p := by
  rw [prototypes, List.mem_filterMap]
  refine exists_congr fun span => and_congr_right fun _ => ?_
  cases Prototype.ofSpan span <;> simp [Except.toOption]

/-! ## Spans that start on a line -/

namespace Extraction

/-- No span starts on a line that a span from further up takes in. -/
theorem line_ne_of_open {lineNo : Nat} {s : OpenSpan} {line : List Char}
    {lines : List (List Char)} {span : Span} (hs : s.line < lineNo)
    (h : span ∈ (ofLinesFrom lineNo (some s) (line :: lines)).spans) : span.line ≠ lineNo := by
  simp only [ofLinesFrom, reach] at h
  -- the span from above ends on the line or goes on behind it; either way it started before
  split at h
  · rcases List.mem_cons.mp h with rfl | hlater
    · exact Nat.ne_of_lt hs
    · have hbounds := bounds_of_mem_spans hlater
      omega
  · rcases (startsIn_ofLinesFrom _ _ _).1 _ h with ⟨t, ht, hline⟩ | hbounds
    · obtain rfl := Option.some.inj ht
      exact hline ▸ Nat.ne_of_lt hs
    · omega

/-- A line that holds a whole declaration and the terminator is a span of its own. -/
private theorem mem_spans_of_line (lineNo : Nat) {line : List Char} (lines : List (List Char))
    (hopens : opensSpan line = true) (hcloses : closesSpan line = true) :
    (⟨lineNo, lineNo, .ofList (Text.dropReturn line)⟩ : Span) ∈
      (ofLinesFrom lineNo none (line :: lines)).spans := by
  rw [← opensSpan_dropReturn] at hopens
  rw [← closesSpan_dropReturn] at hcloses
  simp [ofLinesFrom, reach, hopens, hcloses, OpenSpan.close, OpenSpan.start, OpenSpan.text]

/-- A span that starts on a line without the terminator goes on behind it. -/
private theorem text_of_line {lineNo : Nat} {line : List Char} {lines : List (List Char)}
    {span : Span} (hopens : opensSpan line = true) (hcloses : closesSpan line = false)
    (h : span ∈ (ofLinesFrom lineNo none (line :: lines)).spans) (hline : span.line = lineNo) :
    ∃ behind, span.text.toList = Text.dropReturn line ++ ' ' :: behind ∧
      terminator.toList <:+: behind := by
  rw [← opensSpan_dropReturn] at hopens
  rw [← closesSpan_dropReturn] at hcloses
  simp only [ofLinesFrom, reach, hopens, hcloses, if_true, Bool.false_eq_true, if_false] at h
  have htext := text_of_mem_spans (List.cons_ne_nil _ _) (Nat.lt_succ_self lineNo) h hline
  rwa [OpenSpan.start, OpenSpan.text, String.toList_ofList, List.reverse_singleton,
    List.intercalate_singleton] at htext

end Extraction

/-- A declaration on a line without the terminator is not read: its span goes on up to
a terminator further down, and nothing can stand behind the declaration. -/
private theorem Prototype.not_ofSpan_of_unclosed {lineNo : Nat} {line : List Char}
    {lines : List (List Char)} {span : Span} {p q : Prototype}
    (hp : ofSpan ⟨lineNo, lineNo, .ofList line⟩ = .ok p) (hcloses : closesSpan line = false)
    (h : span ∈ (Extraction.ofLinesFrom lineNo none (line :: lines)).spans)
    (hline : span.line = lineNo) : ofSpan span ≠ .ok q := by
  have hopens := opensSpan_of_ofSpan hp
  rw [String.toList_ofList] at hopens
  obtain ⟨behind, htext, hterminator⟩ := Extraction.text_of_line hopens hcloses h hline
  -- the terminator further down is no blank
  have hparen : ')' ∈ behind := hterminator.subset (by decide)
  have hbehind : behind.all Text.isBlank = false := by
    rw [List.all_eq_false]
    exact ⟨')', hparen, by simp [Text.isBlank]⟩
  rw [← String.toList_ofList (l := Text.dropReturn line)] at htext
  exact not_ofSpan_append (ofSpan_dropReturn hp) htext hbehind

/-! ## Declarations of one line -/

namespace Header

/-- The spans of a header are those in front of a line and those from the line on. -/
private theorem spans_eq_append (h : Header) {i : Nat} {line : List Char}
    (hline : h.lines[i]? = some line) :
    ∃ lines, (Extraction.ofLines h.lines).spans =
      (Extraction.ofLinesFrom 1 none (h.lines.take i)).spans ++
        (Extraction.ofLinesFrom (i + 1)
          (Extraction.ofLinesFrom 1 none (h.lines.take i)).unterminated (line :: lines)).spans := by
  obtain ⟨hi, rfl⟩ := List.getElem?_eq_some_iff.mp hline
  have hsplit : h.lines = h.lines.take i ++ h.lines[i] :: h.lines.drop (i + 1) := by
    rw [← List.drop_eq_getElem_cons hi, List.take_append_drop]
  have hlength : (h.lines.take i).length = i := by
    rw [List.length_take]
    omega
  refine ⟨h.lines.drop (i + 1), ?_⟩
  conv_lhs => rw [Extraction.ofLines, hsplit, Extraction.ofLinesFrom_append, hlength, Nat.add_comm]

/-- A declaration of one line is read if nothing is open in front of the line and the
terminator stands on it. -/
private theorem mem_prototypes_of_line (h : Header) {i : Nat} {line : List Char} {p : Prototype}
    (hline : h.lines[i]? = some line)
    (hp : Prototype.ofSpan ⟨i + 1, i + 1, .ofList line⟩ = .ok p)
    (hcloses : closesSpan line = true) (hbefore : ¬LeavesOpen (h.lines.take i)) :
    p ∈ h.parse.prototypes := by
  obtain ⟨lines, hspans⟩ := h.spans_eq_append hline
  -- nothing is open, so the line starts a span, and it ends it
  have hnone : (Extraction.ofLinesFrom 1 none (h.lines.take i)).unterminated = none := by
    rw [← Extraction.unterminated_isSome_iff 1] at hbefore
    exact Option.not_isSome_iff_eq_none.mp hbefore
  have hopens := Prototype.opensSpan_of_ofSpan hp
  rw [String.toList_ofList] at hopens
  -- the span that it starts and ends is its own text
  have hmem := Extraction.mem_spans_of_line (i + 1) lines hopens hcloses
  rw [← hnone] at hmem
  have hspan := List.mem_append_right
    (Extraction.ofLinesFrom 1 none (h.lines.take i)).spans hmem
  rw [← hspans] at hspan
  exact (Span.mem_prototypes_iff _ _).mpr ⟨_, hspan, Prototype.ofSpan_dropReturn hp⟩

/-- The line of a declaration starts no span that can be read if a span is open in front
of it, or the terminator is missing on it. -/
private theorem line_ne_of_mem_prototypes (h : Header) {i : Nat} {line : List Char}
    {p q : Prototype} (hline : h.lines[i]? = some line)
    (hp : Prototype.ofSpan ⟨i + 1, i + 1, .ofList line⟩ = .ok p)
    (hlost : closesSpan line = false ∨ LeavesOpen (h.lines.take i))
    (hq : q ∈ h.parse.prototypes) : q.line ≠ i + 1 := by
  obtain ⟨span, hspan, hread⟩ := (Span.mem_prototypes_iff _ _).mp hq
  rw [Prototype.line_of_ofSpan hread]
  intro hstart
  obtain ⟨lines, hspans⟩ := h.spans_eq_append hline
  have hlength : (h.lines.take i).length ≤ i := List.length_take_le i h.lines
  rw [hspans, List.mem_append] at hspan
  -- spans from further up start further up
  rcases hspan with habove | hfrom
  · have hbounds := Extraction.bounds_of_mem_spans habove
    omega
  · cases hopen : (Extraction.ofLinesFrom 1 none (h.lines.take i)).unterminated with
    | some s =>
      -- the span from above takes the line in
      have hlt := Extraction.line_lt_of_unterminated hopen
      rw [hopen] at hfrom
      exact Extraction.line_ne_of_open (by omega) hfrom hstart
    | none =>
      -- so the terminator is missing, and the span goes on behind the declaration
      have hbefore : ¬LeavesOpen (h.lines.take i) := by
        rw [← Extraction.unterminated_isSome_iff 1, hopen]
        exact Bool.false_ne_true
      rw [hopen] at hfrom
      exact Prototype.not_ofSpan_of_unclosed hp (hlost.resolve_right hbefore) hfrom hstart hread

/-- A line that is a whole declaration by itself is read as this declaration exactly if
the terminator stands on it and no line above leaves a declaration open.  Otherwise no
prototype has the number of the line. -/
theorem mem_prototypes_iff_of_line (h : Header) {i : Nat} {line : List Char} {p : Prototype}
    (hline : h.lines[i]? = some line)
    (hp : Prototype.ofSpan ⟨i + 1, i + 1, .ofList line⟩ = .ok p) :
    (p ∈ h.parse.prototypes ↔ closesSpan line = true ∧ ¬LeavesOpen (h.lines.take i)) ∧
    (p ∉ h.parse.prototypes → ∀ q ∈ h.parse.prototypes, q.line ≠ i + 1) := by
  have hread : p ∈ h.parse.prototypes ↔ closesSpan line = true ∧ ¬LeavesOpen (h.lines.take i) := by
    constructor
    · intro hmem
      -- a prototype has the line of its span, and no span that can be read has this one
      by_contra hlost
      rw [not_and_or, Bool.not_eq_true, not_not] at hlost
      exact h.line_ne_of_mem_prototypes hline hp hlost hmem (Prototype.line_of_ofSpan hp)
    · intro hcondition
      exact h.mem_prototypes_of_line hline hp hcondition.1 hcondition.2
  refine ⟨hread, fun hnot q hq => ?_⟩
  rw [hread, not_and_or, Bool.not_eq_true, not_not] at hnot
  exact h.line_ne_of_mem_prototypes hline hp hnot hq

/-- A well-formed declaration of one line. -/
def goodLine : String := "VKAPI_ATTR void VKAPI_CALL vkGood(void);"

/-- A header with the well-formed declaration below another line. -/
def goodBelow (line : String) : Header :=
  ⟨"vulkan_core.h", line ++ "\n" ++ goodLine ++ "\n"⟩

/-- Below a malformed declaration that holds the terminator the next one is read. -/
theorem mem_prototypes_of_terminated_above :
    let h := goodBelow "VKAPI_ATTR void VKAPI_CALL vkBroken(int);"
    let good : Prototype := ⟨"vkGood", "void", .empty, 2⟩
    h.lines[1]? = some goodLine.toList ∧
      Prototype.ofSpan ⟨2, 2, .ofList goodLine.toList⟩ = .ok good ∧ good ∈ h.parse.prototypes := by
  intro h good
  have hline : h.lines[1]? = some goodLine.toList := by decide +kernel
  have hgood : Prototype.ofSpan ⟨2, 2, .ofList goodLine.toList⟩ = .ok good := by decide +kernel
  refine ⟨hline, hgood, (h.mem_prototypes_iff_of_line hline hgood).1.mpr ?_⟩
  decide +kernel

/-- A declaration without the terminator costs the one below it as well. -/
theorem not_mem_prototypes_of_open_above :
    ¬∀ (h : Header) (i : Nat) (line : List Char) (p : Prototype), h.lines[i]? = some line →
      Prototype.ofSpan ⟨i + 1, i + 1, .ofList line⟩ = .ok p → p ∈ h.parse.prototypes := by
  intro hclaim
  have hmem := hclaim (goodBelow "VKAPI_ATTR void VKAPI_CALL vkBroken;") 1 goodLine.toList
    ⟨"vkGood", "void", .empty, 2⟩ (by decide +kernel) (by decide +kernel)
  revert hmem
  decide +kernel

end Header

end VulkanGen
