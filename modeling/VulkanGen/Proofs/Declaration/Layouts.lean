import VulkanGen.Proofs.Declaration.Derivation
import VulkanGen.Proofs.Declaration.Spans

/-!
# Layouts make spans

A layout may spread a declaration over many lines.  Its first line with anything on
it holds both markers, and its only closing parenthesis is the one in front of the
semicolon, so whatever the blanks are, the scanner finds one span, which starts on
the line of the first marker and has the lexemes of the form.

## Key results

- `DeclarationForm.spelled_of_mem_lexemes`: a spelled form has spelled lexemes
- `DeclarationLayout.exists_span`: the span of a layout
-/

namespace VulkanGen

/-! ## The lexemes of a form -/

/-- Whether a lexeme is spelled like its kind and closes no parenthesis. -/
def Lexeme.Inner (l : Lexeme) : Prop :=
  l.spelled = true ∧ l.kind ≠ .rightParen

/-- A word closes no parenthesis. -/
private theorem Lexeme.inner_word {text : String} (h : isIdentifier text = true) :
    (Lexeme.word text).Inner :=
  ⟨(Token.spelled_word text).trans h, by simp [Lexeme.word]⟩

/-- A number closes no parenthesis. -/
private theorem Lexeme.inner_number {text : String} (h : isNumeral text = true) :
    (Lexeme.number text).Inner :=
  ⟨(Token.spelled_number text).trans h, by simp [Lexeme.number]⟩

/-- A part of a type closes no parenthesis. -/
private theorem TypeWord.inner_lexeme {w : TypeWord} (h : w.spelled = true) : w.lexeme.Inner := by
  cases w with
  | word text => exact Lexeme.inner_word h
  | star => exact ⟨rfl, by decide⟩

/-- No part of a type closes a parenthesis. -/
private theorem TypeWord.inner_of_mem {ws : List TypeWord} (h : ∀ w ∈ ws, w.spelled = true) :
    ∀ l ∈ ws.map TypeWord.lexeme, l.Inner := by
  intro l hl
  obtain ⟨w, hw, rfl⟩ := List.mem_map.mp hl
  exact inner_lexeme (h w hw)

/-- No lexeme of a parameter closes a parenthesis. -/
private theorem ParameterForm.inner_of_mem {p : ParameterForm} (h : p.Spelled) :
    ∀ l ∈ p.lexemes, l.Inner := by
  rw [Declaration.lexemes_parameterForm]
  simp only [List.forall_mem_append, List.forall_mem_cons]
  refine ⟨TypeWord.inner_of_mem h.1, Lexeme.inner_word h.2.1, ?_⟩
  cases hextent : p.extent with
  | none => exact List.forall_mem_nil _
  | some digits =>
    simp only [Declaration.extentLexemes, List.forall_mem_cons]
    exact ⟨⟨rfl, by decide⟩, Lexeme.inner_number (h.2.2 digits hextent), ⟨rfl, by decide⟩,
      List.forall_mem_nil _⟩

/-- No lexeme between the parentheses of a declaration closes one. -/
private theorem ParametersForm.inner_of_mem {f : ParametersForm} (h : ∀ p ∈ f.toList, p.Spelled) :
    ∀ l ∈ f.lexemes, l.Inner := by
  cases f with
  | nothing => exact List.forall_mem_nil _
  -- the word `void` closes nothing
  | void =>
    simp only [lexemes, List.forall_mem_singleton]
    exact Lexeme.inner_word (by decide)
  | list first later =>
    simp only [toList, List.forall_mem_cons] at h
    simp only [lexemes, List.forall_mem_append, List.mem_flatMap, List.mem_cons]
    refine ⟨ParameterForm.inner_of_mem h.1, ?_⟩
    rintro l ⟨p, hp, rfl | hl⟩
    · -- the comma in front of a later parameter
      exact ⟨rfl, by decide⟩
    · exact ParameterForm.inner_of_mem (h.2 p hp) l hl

/-- A form that can be written down has lexemes that are spelled like their kinds. -/
theorem DeclarationForm.spelled_of_mem_lexemes {d : DeclarationForm} (h : d.Spelled) :
    ∀ l ∈ d.lexemes, l.spelled = true := by
  simp only [lexemes, List.cons_append, List.append_assoc, List.forall_mem_cons,
    List.forall_mem_append]
  exact ⟨by decide, fun l hl => (TypeWord.inner_of_mem h.1 l hl).1, by decide,
    (Lexeme.inner_word h.2.1).1, rfl, fun l hl => (ParametersForm.inner_of_mem h.2.2 l hl).1,
    rfl, rfl, List.forall_mem_nil _⟩

/-! ## Texts of placed lexemes -/

/-- A character that is no blank stands in a lexeme, not in a gap. -/
private theorem exists_lexeme_of_mem {placed : List PlacedLexeme}
    (hblank : ∀ l ∈ placed, l.gap.all Text.isBlank = true) {c : Char}
    (hc : Text.isBlank c = false) (hmem : c ∈ placed.flatMap PlacedLexeme.text) :
    ∃ l ∈ placed, c ∈ l.lexeme.text.toList := by
  obtain ⟨l, hl, hcl⟩ := List.mem_flatMap.mp hmem
  rw [PlacedLexeme.text, List.mem_append] at hcl
  rcases hcl with hgap | htext
  · have := List.all_eq_true.mp (hblank l hl) c hgap
    exact absurd this (by simp [hc])
  · exact ⟨l, hl, htext⟩

/-- A line break stands in a gap, not in a lexeme. -/
theorem not_break_of_gaps {placed : List PlacedLexeme}
    (hspelled : ∀ l ∈ placed, l.lexeme.spelled = true) (hgap : ∀ l ∈ placed, '\n' ∉ l.gap) :
    '\n' ∉ placed.flatMap PlacedLexeme.text := by
  intro hmem
  obtain ⟨l, hl, hcl⟩ := List.mem_flatMap.mp hmem
  rw [PlacedLexeme.text, List.mem_append] at hcl
  rcases hcl with h | htext
  · exact hgap l hl h
  · have := Token.not_blank_of_mem_spelled (hspelled l hl) htext
    exact absurd Token.isBlank_lineFeed (by simp [this])

/-- No closing parenthesis stands among inner lexemes. -/
private theorem not_closing_of_inner {placed : List PlacedLexeme}
    (hblank : ∀ l ∈ placed, l.gap.all Text.isBlank = true)
    (hinner : ∀ l ∈ placed, l.lexeme.Inner) : ')' ∉ placed.flatMap PlacedLexeme.text := by
  intro hmem
  obtain ⟨l, hl, hcl⟩ := exists_lexeme_of_mem hblank (by simp [Text.isBlank]) hmem
  have hmark : Token.Kind.mark? .rightParen = some ')' := rfl
  exact (hinner l hl).2 (Token.kind_of_mem_spelled (hinner l hl).1 hmark hcl)

/-! ## The span of a layout -/

namespace DeclarationLayout

/-- The lexemes of a layout, part by part. -/
structure Parts (d : DeclarationLayout) where
  start : PlacedLexeme
  words : List PlacedLexeme
  call : PlacedLexeme
  inner : List PlacedLexeme
  closing : PlacedLexeme
  semicolon : PlacedLexeme
  placed_eq : d.placed = start :: (words ++ call :: (inner ++ [closing, semicolon]))
  start_eq : start.lexeme = .word attributeMarker
  words_eq : words.map (·.lexeme) = d.form.returnType.map TypeWord.lexeme
  call_eq : call.lexeme = .word callMarker
  inner_eq : inner.map (·.lexeme) =
    .word d.form.name :: .mark .leftParen :: d.form.parameters.lexemes
  closing_eq : closing.lexeme = .mark .rightParen
  semicolon_eq : semicolon.lexeme = .mark .semicolon

/-- A layout of a form has the parts of the form. -/
private theorem nonempty_parts {d : DeclarationLayout}
    (h : d.placed.map (·.lexeme) = d.form.lexemes) :
    Nonempty d.Parts := by
  -- the lexemes of the form are taken off from the front, and the placed ones with them
  simp only [DeclarationForm.lexemes, List.cons_append, List.append_assoc] at h
  obtain ⟨start, _, hplaced, hstart, h⟩ := List.map_eq_cons_iff.mp h
  obtain ⟨words, _, rfl, hwords, h⟩ := List.map_eq_append_iff.mp h
  obtain ⟨call, _, rfl, hcall, h⟩ := List.map_eq_cons_iff.mp h
  -- the parentheses are no part of their own: the opening one is the first of the inner lexemes
  rw [← List.cons_append, ← List.cons_append] at h
  obtain ⟨inner, _, rfl, hinner, h⟩ := List.map_eq_append_iff.mp h
  obtain ⟨closing, _, rfl, hclosing, h⟩ := List.map_eq_cons_iff.mp h
  obtain ⟨semicolon, _, rfl, hsemicolon, h⟩ := List.map_eq_cons_iff.mp h
  obtain rfl := List.map_eq_nil_iff.mp h
  exact ⟨⟨start, words, call, inner, closing, semicolon, hplaced, hstart, hwords, hcall, hinner,
    hclosing, hsemicolon⟩⟩

/-- Behind the first marker stand the return type and the second marker. -/
private theorem Parts.betweenMarkers_eq {d : DeclarationLayout} (p : d.Parts) :
    d.betweenMarkers = p.words ++ [p.call] := by
  have hlength : p.words.length = d.form.returnType.length := by
    simpa using congrArg List.length p.words_eq
  rw [betweenMarkers, p.placed_eq, List.drop_one, List.tail_cons, ← hlength]
  rw [List.take_append, List.take_of_length_le (Nat.le_succ _)]
  simp

/-- The semicolon stands directly behind the closing parenthesis. -/
private theorem Parts.semicolon_gap {d : DeclarationLayout} (p : d.Parts) (h : d.Allowed) :
    p.semicolon.gap = [] := by
  have hgap := h.terminator_together
  have hplaced : d.placed =
      p.start :: (p.words ++ p.call :: (p.inner ++ [p.closing])) ++ [p.semicolon] := by
    rw [p.placed_eq]
    simp
  rw [hplaced, List.getLast?_concat] at hgap
  exact Option.some.inj hgap

/-- Whether words are kept apart does not depend on the first gap. -/
private theorem wordsApart_of_first {gap : List Char} {l : PlacedLexeme}
    {placed : List PlacedLexeme}
    (h : WordsApart (l :: placed)) : WordsApart (⟨gap, l.lexeme⟩ :: placed) := by
  cases placed with
  | nil => trivial
  | cons m placed => exact h

namespace Parts

variable {d : DeclarationLayout} (p : d.Parts)

/-- The placed lexemes with another gap in front of the first one. -/
def moved (indent : List Char) : List PlacedLexeme :=
  ⟨indent, p.start.lexeme⟩ :: (p.words ++ p.call :: (p.inner ++ [p.closing, p.semicolon]))

/-- The beginning of the first line: its indentation and everything up to the second marker. -/
def first (indent : List Char) : List Char :=
  indent ++ attributeMarker.toList ++ (p.words ++ [p.call]).flatMap PlacedLexeme.text

/-- What stands between the second marker and the closing parenthesis. -/
def middle : List Char :=
  p.inner.flatMap PlacedLexeme.text ++ p.closing.gap

/-- The return type and the second marker are placed lexemes of the layout. -/
private theorem mem_placed_of_words {l : PlacedLexeme} (hl : l ∈ p.words ++ [p.call]) :
    l ∈ d.placed := by
  rw [p.placed_eq]
  simp only [List.mem_append, List.mem_singleton] at hl
  rcases hl with hl | rfl <;> simp [*]

/-- What stands inside the parentheses is placed lexemes of the layout. -/
private theorem mem_placed_of_inner {l : PlacedLexeme} (hl : l ∈ p.inner) : l ∈ d.placed := by
  rw [p.placed_eq]
  simp [hl]

/-- The text of a declaration ends in the terminator. -/
private theorem text_moved (h : d.Allowed) (indent : List Char) :
    (p.moved indent).flatMap PlacedLexeme.text =
      p.first indent ++ p.middle ++ terminator.toList := by
  have hterminator : terminator.toList = [')', ';'] := rfl
  simp [moved, first, middle, PlacedLexeme.text, p.start_eq, p.closing_eq, p.semicolon_eq,
    p.semicolon_gap h, hterminator, Lexeme.word, Lexeme.mark,
    Token.Kind.mark?]

/-- The text of a layout: the lines above, the declaration with its terminator and what is
behind. -/
theorem text_eq (h : d.Allowed) {above indent : List Char}
    (hgap : p.start.gap = above ++ indent) :
    d.text =
      above ++ (p.first indent ++ p.middle ++ terminator.toList ++ d.trailing ++ ['\n']) := by
  rw [← p.text_moved h, text, p.placed_eq]
  simp [moved, PlacedLexeme.text, hgap]

/-- The declaration is read back from its text as the lexemes of the form. -/
private theorem lexemes?_text (hform : d.form.Spelled) (h : d.Allowed) {indent : List Char}
    (hindent : indent.all Text.isBlank = true) :
    Token.lexemes? (p.first indent ++ p.middle ++ terminator.toList) = some d.form.lexemes := by
  have hlexemes : (p.moved indent).map (·.lexeme) = d.form.lexemes := by
    rw [← h.lexemes_eq, p.placed_eq]
    rfl
  have hspelled : ∀ l ∈ p.moved indent, l.lexeme.spelled = true := fun l hl =>
    DeclarationForm.spelled_of_mem_lexemes hform _ (hlexemes ▸ List.mem_map_of_mem hl)
  have hblank := h.blank_gaps
  have hapart := h.words_apart
  rw [p.placed_eq] at hblank hapart
  -- `indent` takes the place of the first gap, and the others are those of the layout
  have hmovedBlank : ∀ l ∈ p.moved indent, l.gap.all Text.isBlank = true :=
    List.forall_mem_cons.mpr ⟨hindent, (List.forall_mem_cons.mp hblank).2⟩
  -- the first gap is outside the span, so `h.words_apart` is about another first lexeme
  rw [← hlexemes, ← p.text_moved h,
    ← Token.lexemes?_placed hspelled hmovedBlank (wordsApart_of_first hapart) [] rfl,
    List.append_nil]

/-- The beginning of the first line holds both markers. -/
private theorem opensSpan_first (indent : List Char) : opensSpan (p.first indent) = true := by
  rw [opensSpan_iff]
  refine ⟨⟨indent, _, rfl⟩, ?_⟩
  rw [first, List.flatMap_append]
  exact ⟨indent ++ attributeMarker.toList ++ p.words.flatMap PlacedLexeme.text ++ p.call.gap, [],
    by simp [PlacedLexeme.text, p.call_eq, Lexeme.word]⟩

/-- The first part ends in the last letter of the second marker, so in no carriage return. -/
private theorem getLast?_first (indent : List Char) : (p.first indent).getLast? = some 'L' := by
  have hlast : callMarker.toList.getLast? = some 'L' := by decide
  rw [first, List.flatMap_append]
  simp [PlacedLexeme.text, p.call_eq, Lexeme.word, List.getLast?_append, hlast]

/-- The first part stands on one line, if its indentation does. -/
private theorem not_break_first (hform : d.form.Spelled) (h : d.Allowed) {indent : List Char}
    (hindent : '\n' ∉ indent) : '\n' ∉ p.first indent := by
  simp only [first, List.mem_append, not_or]
  rw [← p.betweenMarkers_eq]
  refine ⟨⟨hindent, by decide⟩, not_break_of_gaps (fun l hl => ?_) h.markers_together⟩
  exact DeclarationForm.spelled_of_mem_lexemes hform _
    (h.lexemes_eq ▸ List.mem_map_of_mem (p.mem_placed_of_words (p.betweenMarkers_eq ▸ hl)))

/-- The return type and the second marker close no parenthesis. -/
private theorem inner_of_mem_words (hform : d.form.Spelled) :
    ∀ l ∈ p.words ++ [p.call], l.lexeme.Inner := by
  rw [List.forall_mem_append, List.forall_mem_singleton, p.call_eq]
  refine ⟨fun l hl => TypeWord.inner_of_mem hform.1 _ ?_, Lexeme.inner_word (by decide)⟩
  exact p.words_eq ▸ List.mem_map_of_mem hl

/-- What stands inside the parentheses closes none. -/
private theorem inner_of_mem_inner (hform : d.form.Spelled) : ∀ l ∈ p.inner, l.lexeme.Inner := by
  intro l hl
  have hmem : l.lexeme ∈ p.inner.map (·.lexeme) := List.mem_map_of_mem hl
  rw [p.inner_eq, List.mem_cons, List.mem_cons] at hmem
  rcases hmem with hname | hparen | hparameters
  · exact hname ▸ Lexeme.inner_word hform.2.1
  · exact hparen ▸ ⟨rfl, by decide⟩
  · exact ParametersForm.inner_of_mem hform.2.2 _ hparameters

/-- In front of the terminator stands no closing parenthesis. -/
private theorem not_closing (hform : d.form.Spelled) (h : d.Allowed) {indent : List Char}
    (hindent : indent.all Text.isBlank = true) : ')' ∉ p.first indent ++ p.middle := by
  -- a closing parenthesis is no blank, and the first marker has none
  have hgap : ∀ {gap : List Char}, gap.all Text.isBlank = true → ')' ∉ gap := fun hgap hmem =>
    absurd (List.all_eq_true.mp hgap _ hmem) (by simp [Text.isBlank])
  have hclosingGap : p.closing.gap.all Text.isBlank = true :=
    h.blank_gaps _ (by rw [p.placed_eq]; simp)
  simp only [first, middle, List.mem_append, not_or]
  refine ⟨⟨⟨hgap hindent, by decide⟩, ?_⟩, ?_, hgap hclosingGap⟩
  · exact not_closing_of_inner (fun l hl => h.blank_gaps l (p.mem_placed_of_words hl))
      (p.inner_of_mem_words hform)
  · exact not_closing_of_inner (fun l hl => h.blank_gaps l (p.mem_placed_of_inner hl))
      (p.inner_of_mem_inner hform)

end Parts

/-- A layout makes one span, which starts on the line of the first marker and has
the lexemes of the form. -/
theorem exists_span (lineNo : Nat) {d : DeclarationLayout} (hform : d.form.Spelled)
    (h : d.Allowed) :
    ∃ span, Extraction.ofLinesFrom lineNo none (Text.lines d.text) = ⟨[span], none⟩ ∧
      span.line = lineNo + d.leadingBreaks ∧
      Token.lexemes? span.text.toList = some d.form.lexemes := by
  obtain ⟨p⟩ := nonempty_parts h.lexemes_eq
  -- only the line breaks in front of the first marker are outside the span
  obtain ⟨above, indent, hgap, habove, hindent⟩ := Text.exists_last_break p.start.gap
  have hblank : p.start.gap.all Text.isBlank = true :=
    h.blank_gaps _ (by rw [p.placed_eq]; simp)
  rw [hgap, List.all_append, Bool.and_eq_true] at hblank
  -- the line break behind it is kept: no carriage return would go with it
  have hreturn : (p.first indent).getLast? ≠ some '\r' := by
    rw [p.getLast?_first]
    decide
  -- the span starts on the line of the indentation
  have hbreaks : d.leadingBreaks = above.count '\n' := by
    rw [leadingBreaks, p.placed_eq, List.headD_cons, hgap, List.count_append,
      List.count_eq_zero.mpr hindent, Nat.add_zero]
  rw [p.text_eq h hgap, hbreaks, ← p.lexemes?_text hform h hblank.2]
  exact Extraction.exists_span lineNo habove hblank.1 (p.not_break_first hform h hindent)
    (p.opensSpan_first indent) hreturn (p.not_closing hform h hblank.2) h.blank_trailing

end DeclarationLayout

end VulkanGen
