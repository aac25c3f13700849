import VulkanGen.Header
import VulkanGen.Proofs.Token.Lexemes

/-!
# Extracting spans

Lines are extracted one after the other, so the spans of two pieces of a header are
those of the first and then those of the second, where it goes on with what the
first leaves open.  A span is found whole where its first line opens it and only its
last line closes it.

## Key results

- `Extraction.ofLinesFrom_append`: extraction piece by piece
- `Extraction.ofLinesFrom_of_not_opens`: lines that open nothing hold nothing
- `Extraction.ofLinesFrom_span`: the lines of one declaration make one span
- `Extraction.exists_span`: so does the text of one declaration, between blanks
- `Extraction.Reads.append`: pieces whose declarations are read follow one another
-/

namespace VulkanGen

/-- A line opens a span if both markers stand in it, in whatever order. -/
theorem opensSpan_iff (line : List Char) :
    opensSpan line = true ↔ attributeMarker.toList <:+: line ∧ callMarker.toList <:+: line := by
  rw [opensSpan, Bool.and_eq_true, Text.occursIn_iff, Text.occursIn_iff]

/-- A line closes a span if the terminator stands in it. -/
theorem closesSpan_iff (line : List Char) :
    closesSpan line = true ↔ terminator.toList <:+: line := by
  rw [closesSpan, Text.occursIn_iff]

namespace Extraction

/-- Two pieces of a header are extracted one after the other. -/
theorem ofLinesFrom_append (lineNo : Nat) (current : Option OpenSpan) (as bs : List (List Char)) :
    ofLinesFrom lineNo current (as ++ bs) =
      ⟨(ofLinesFrom lineNo current as).spans ++ (ofLinesFrom (lineNo + as.length)
          (ofLinesFrom lineNo current as).unterminated bs).spans,
        (ofLinesFrom (lineNo + as.length)
          (ofLinesFrom lineNo current as).unterminated bs).unterminated⟩ := by
  induction as generalizing lineNo current with
  | nil => simp
  | cons line as ih =>
    have hlength : lineNo + (line :: as).length = lineNo + 1 + as.length := by
      simp only [List.length_cons]
      omega
    simp only [List.cons_append, ofLinesFrom, hlength]
    -- the first line does the same to both sides, whether it reaches a span or not
    cases reach lineNo current (Text.dropReturn line) with
    | none => exact ih (lineNo + 1) none
    | some s =>
      dsimp only
      -- a span that the line closes is behind both, one that stays open goes on
      split
      · simp only [ih, List.cons_append]
      · exact ih (lineNo + 1) (some s)

/-- A piece that leaves no span open is followed by the spans of the next one. -/
private theorem append_complete {lineNo : Nat} {as bs : List (List Char)} {first second : List Span}
    (hfirst : ofLinesFrom lineNo none as = ⟨first, none⟩)
    (hsecond : ofLinesFrom (lineNo + as.length) none bs = ⟨second, none⟩) :
    ofLinesFrom lineNo none (as ++ bs) = ⟨first ++ second, none⟩ := by
  rw [ofLinesFrom_append, hfirst, hsecond]

/-- Lines that open nothing hold nothing. -/
theorem ofLinesFrom_of_not_opens (lineNo : Nat) {lines : List (List Char)}
    (h : ∀ line ∈ lines, opensSpan (Text.dropReturn line) = false) :
    ofLinesFrom lineNo none lines = ⟨[], none⟩ := by
  induction lines generalizing lineNo with
  | nil => rfl
  | cons line lines ih =>
    rw [List.forall_mem_cons] at h
    rw [ofLinesFrom_cons_of_not_opens lineNo lines h.1, ih (lineNo + 1) h.2]

/-- A span that is open goes on up to the first line that closes it. -/
private theorem ofLinesFrom_some (lineNo : Nat) (s : OpenSpan) {lines : List (List Char)}
    {last : List Char} (hlines : ∀ line ∈ lines, closesSpan (Text.dropReturn line) = false)
    (hlast : closesSpan (Text.dropReturn last) = true) :
    ofLinesFrom lineNo (some s) (lines ++ [last]) =
      ⟨[⟨s.line, lineNo + lines.length, .ofList ([' '].intercalate
        (s.newest.reverse ++ (lines ++ [last]).map Text.dropReturn))⟩], none⟩ := by
  induction lines generalizing lineNo s with
  | nil =>
    simp [ofLinesFrom, reach, hlast, OpenSpan.close, OpenSpan.push, OpenSpan.text]
  | cons line lines ih =>
    rw [List.forall_mem_cons] at hlines
    have hlength : lineNo + (line :: lines).length = lineNo + 1 + lines.length := by
      simp only [List.length_cons]
      omega
    -- this line is pushed, so the induction is about the span with it
    simp only [List.cons_append, ofLinesFrom, reach, hlines.1, Bool.false_eq_true, if_false,
      ih (lineNo + 1) (s.push (Text.dropReturn line)) hlines.2, hlength]
    simp [OpenSpan.push]

/-- A declaration makes one span: its first line opens it, and only the last closes it. -/
theorem ofLinesFrom_span (lineNo : Nat) {lines : List (List Char)} (last : List Char)
    (hopens : ∀ line ∈ (lines ++ [last]).head?, opensSpan (Text.dropReturn line) = true)
    (hlines : ∀ line ∈ lines, closesSpan (Text.dropReturn line) = false)
    (hlast : closesSpan (Text.dropReturn last) = true) :
    ofLinesFrom lineNo none (lines ++ [last]) =
      ⟨[⟨lineNo, lineNo + lines.length, .ofList ([' '].intercalate
        ((lines ++ [last]).map Text.dropReturn))⟩], none⟩ := by
  -- with one line the span is closed where it is opened; otherwise it is open behind the first
  cases lines with
  -- opened and closed on the same line
  | nil =>
    have hfirst := hopens last rfl
    simp [ofLinesFrom, reach, hfirst, hlast, OpenSpan.close, OpenSpan.start, OpenSpan.text]
  | cons line lines =>
    rw [List.forall_mem_cons] at hlines
    have hfirst := hopens line rfl
    have hlength : lineNo + (line :: lines).length = lineNo + 1 + lines.length := by
      simp only [List.length_cons]
      omega
    simp only [List.cons_append, ofLinesFrom, reach, hfirst, if_true, hlines.1,
      Bool.false_eq_true, if_false, hlength,
      ofLinesFrom_some (lineNo + 1) (.start lineNo (Text.dropReturn line)) hlines.2 hlast]
    simp [OpenSpan.start]

end Extraction

/-! ## A declaration in its text -/

/-- A line opens a span if a part of it holds both markers. -/
private theorem opensSpan_of_infix {part line : List Char} (hpart : part <:+: line)
    (h : opensSpan part = true) : opensSpan line = true := by
  rw [opensSpan_iff] at h ⊢
  exact ⟨h.1.trans hpart, h.2.trans hpart⟩

/-- Lines of blanks open nothing. -/
private theorem not_opensSpan_of_blank {cs : List Char} (h : cs.all Text.isBlank = true) :
    ∀ line ∈ Text.lines cs, opensSpan (Text.dropReturn line) = false := by
  intro line hline
  rw [Bool.eq_false_iff]
  intro hopens
  have hpart := (Text.dropReturn_isPrefix line).isInfix.trans (Text.infix_of_mem_lines hline)
  have hmarker := ((opensSpan_iff _).mp hopens).1.trans hpart
  have hblank := List.all_eq_true.mp h 'V' (hmarker.subset (by decide))
  simp [Text.isBlank] at hblank

/-- The first line of a text that starts with both markers opens a span. -/
private theorem opensSpan_head?_lines {first rest : List Char} (hfirst : '\n' ∉ first)
    (hopens : opensSpan first = true) (hreturn : first.getLast? ≠ some '\r') (hrest : '\n' ∈ rest) :
    ∀ line ∈ (Text.lines (first ++ rest)).head?, opensSpan (Text.dropReturn line) = true := by
  obtain ⟨behind, hhead⟩ := Text.head?_lines first rest hfirst hrest
  rw [hhead]
  rintro line ⟨⟩
  -- the line break may take two carriage returns away, and neither is one of `first`
  obtain ⟨kept, hkept⟩ := Text.isPrefix_dropReturn behind hreturn
  rw [← hkept]
  exact opensSpan_of_infix (Text.isPrefix_dropReturn kept hreturn).isInfix hopens

/-- Without a closing parenthesis no line closes a span. -/
private theorem not_closesSpan_of_not_mem {cs : List Char} (h : ')' ∉ cs) :
    ∀ line ∈ Text.lines cs, closesSpan (Text.dropReturn line) = false := by
  intro line hline
  rw [Bool.eq_false_iff]
  intro hcloses
  have hpart := (Text.dropReturn_isPrefix line).isInfix.trans (Text.infix_of_mem_lines hline)
  exact h ((((closesSpan_iff _).mp hcloses).trans hpart).subset (by decide))

/-- The line with the terminator closes the span, whatever follows it. -/
private theorem closesSpan_of_terminator (start stop : List Char) :
    closesSpan (Text.dropReturn (Text.dropReturn (start ++ terminator.toList ++ stop))) = true := by
  have hlast : terminator.toList.getLast? = some ';' := by decide
  have hreturn : (start ++ terminator.toList).getLast? ≠ some '\r' := by
    simp [List.getLast?_append, hlast]
  obtain ⟨kept, hkept⟩ := Text.isPrefix_dropReturn stop hreturn
  rw [← hkept, closesSpan_iff]
  exact (List.suffix_append _ _).isInfix.trans (Text.isPrefix_dropReturn kept hreturn).isInfix

/-- What holds of all characters of a text holds of those of a part. -/
private theorem all_of_infix {p : Char → Bool} {part cs : List Char} (hpart : part <:+: cs)
    (h : cs.all p = true) : part.all p = true :=
  List.all_eq_true.mpr fun c hc => List.all_eq_true.mp h c (hpart.subset hc)

/-- Blanks behind a declaration are the rest of its last line, and lines of blanks. -/
private theorem exists_lines_of_blanks {below : List Char}
    (hbelow : below.all Text.isBlank = true) :
    ∃ stop rest, below ++ ['\n'] = stop ++ '\n' :: rest ∧ '\n' ∉ stop ∧
      (stop ++ ['\n']).all Text.isBlank = true ∧ rest.all Text.isBlank = true := by
  have hbreak : '\n' ∈ below ++ ['\n'] := List.mem_concat_self
  have hblank : (below ++ ['\n']).all Text.isBlank = true := by
    simp only [List.all_append, hbelow, List.all_cons, Token.isBlank_lineFeed, List.all_nil,
      Bool.and_self]
  obtain ⟨stop, rest, hstop, hstopBreak⟩ := Text.exists_first_break hbreak
  refine ⟨stop, rest, hstop, hstopBreak, ?_, ?_⟩
  · exact all_of_infix ⟨[], rest, by rw [hstop]; simp⟩ hblank
  · exact all_of_infix ⟨stop ++ ['\n'], [], by rw [hstop]; simp⟩ hblank

/-- A declaration between blanks makes one span: its first line holds both markers,
and its only closing parenthesis stands in the terminator. -/
theorem Extraction.exists_span (lineNo : Nat) {above first middle below : List Char}
    (habove : Text.EndsInBreak above) (haboveBlank : above.all Text.isBlank = true)
    (hfirst : '\n' ∉ first) (hopens : opensSpan first = true)
    (hreturn : first.getLast? ≠ some '\r') (hclosing : ')' ∉ first ++ middle)
    (hbelow : below.all Text.isBlank = true) :
    ∃ span, ofLinesFrom lineNo none (Text.lines
        (above ++ (first ++ middle ++ terminator.toList ++ below ++ ['\n']))) = ⟨[span], none⟩ ∧
      span.line = lineNo + above.count '\n' ∧
      Token.lexemes? span.text.toList =
        Token.lexemes? (first ++ middle ++ terminator.toList) := by
  -- the declaration's last line starts behind the last break of `first ++ middle`
  obtain ⟨front, start, hfront, hfrontBreak, hstart⟩ := Text.exists_last_break (first ++ middle)
  obtain ⟨stop, rest, hstop, hstopBreak, hstopBlank, hrestBlank⟩ := exists_lines_of_blanks hbelow
  let last := start ++ terminator.toList ++ stop
  have hlastBreak : '\n' ∉ last := by
    simp only [last, List.mem_append, not_or]
    exact ⟨⟨hstart, by decide⟩, hstopBreak⟩
  let declaration := first ++ (middle ++ terminator.toList ++ (stop ++ ['\n']))
  have hdeclaration : Text.lines declaration = Text.lines front ++ [Text.dropReturn last] := by
    rw [← Text.lines_break last hlastBreak, ← Text.lines_append hfrontBreak]
    simp only [declaration, last, ← List.append_assoc, hfront]
  -- each of the three parts ends a line, so their lines are apart
  have hlines : Text.lines (above ++ (first ++ middle ++ terminator.toList ++ below ++ ['\n'])) =
      Text.lines above ++ (Text.lines declaration ++ Text.lines rest) := by
    have hend : Text.EndsInBreak declaration := by
      intro c hc
      simpa [declaration, eq_comm] using hc
    rw [Text.lines_append habove, ← Text.lines_append hend, List.append_assoc _ below, hstop]
    simp only [declaration, List.append_assoc, List.singleton_append]
  -- no line but the last holds a closing parenthesis
  have hspan := ofLinesFrom_span (lineNo + (Text.lines above).length) (Text.dropReturn last)
    (hdeclaration ▸ opensSpan_head?_lines hfirst hopens hreturn (by simp))
    (not_closesSpan_of_not_mem fun hmem => hclosing (hfront ▸ List.mem_append_left _ hmem))
    (closesSpan_of_terminator start stop)
  rw [Text.length_lines habove, ← hdeclaration] at hspan
  -- the span takes up all lines of the declaration, and its text is these lines joined
  refine ⟨⟨lineNo + above.count '\n', lineNo + above.count '\n' + (Text.lines front).length,
    .ofList ([' '].intercalate ((Text.lines declaration).map Text.dropReturn))⟩, ?_, rfl, ?_⟩
  · have hnothing := ofLinesFrom_of_not_opens lineNo (not_opensSpan_of_blank haboveBlank)
    have hbehind := ofLinesFrom_of_not_opens (lineNo + above.count '\n' +
      (Text.lines declaration).length) (not_opensSpan_of_blank hrestBlank)
    rw [hlines]
    refine append_complete hnothing ?_
    rw [Text.length_lines habove]
    exact append_complete hspan hbehind
  · -- joining turns breaks into spaces, and lexemes do not tell blanks apart
    have hblanks := Token.lexemes?_append_blanks (first ++ middle ++ terminator.toList) hstopBlank
    rw [String.toList_ofList, Token.lexemes?_joined_lines, ← hblanks]
    simp only [declaration, List.append_assoc]

/-! ## Pieces whose declarations are read -/

/-- Whether lines that are numbered from `lineNo` declare these prototypes, with no
declaration left open and none left out. -/
def Extraction.Reads (lineNo : Nat) (lines : List (List Char)) (ps : List Prototype) : Prop :=
  ∃ spans, ofLinesFrom lineNo none lines = ⟨spans, none⟩ ∧
    Span.prototypes spans = ps ∧ Span.malformed spans = []

namespace Extraction

/-- Lines that open nothing declare nothing. -/
theorem reads_of_not_opens (lineNo : Nat) {lines : List (List Char)}
    (h : ∀ line ∈ lines, opensSpan (Text.dropReturn line) = false) : Reads lineNo lines [] :=
  ⟨[], ofLinesFrom_of_not_opens lineNo h, rfl, rfl⟩

/-- Neither do no lines. -/
theorem reads_nil (lineNo : Nat) : Reads lineNo [] [] :=
  ⟨[], rfl, rfl, rfl⟩

/-- A span that fits the grammar is read. -/
theorem reads_of_ofSpan {lineNo : Nat} {lines : List (List Char)} {span : Span} {p : Prototype}
    (hspan : ofLinesFrom lineNo none lines = ⟨[span], none⟩)
    (hread : Prototype.ofSpan span = .ok p) : Reads lineNo lines [p] := by
  refine ⟨[span], hspan, ?_, ?_⟩
  · simp [Span.prototypes, hread, Except.toOption]
  · simp [Span.malformed, hread]

/-- Pieces whose declarations are read follow one another. -/
theorem Reads.append {lineNo : Nat} {as bs : List (List Char)} {ps qs : List Prototype}
    (has : Reads lineNo as ps) (hbs : Reads (lineNo + as.length) bs qs) :
    Reads lineNo (as ++ bs) (ps ++ qs) := by
  obtain ⟨first, hfirst, hps, hfirstMalformed⟩ := has
  obtain ⟨second, hsecond, hqs, hsecondMalformed⟩ := hbs
  refine ⟨first ++ second, append_complete hfirst hsecond, ?_, ?_⟩
  · rw [Span.prototypes_append, hps, hqs]
  · rw [Span.malformed_append, hfirstMalformed, hsecondMalformed, List.append_nil]

end Extraction

/-- A header whose lines are read declares what they declare, and nothing in it is
diagnosed. -/
theorem Header.parse_of_reads {h : Header} {ps : List Prototype}
    (hreads : Extraction.Reads 1 h.lines ps) :
    h.parse.prototypes = ps ∧ h.parse.diagnostics = [] := by
  obtain ⟨spans, hspans, hprototypes, hmalformed⟩ := hreads
  have hextraction : Extraction.ofLines h.lines = ⟨spans, none⟩ := hspans
  simp only [parse, hextraction, Extraction.diagnostics, hmalformed]
  exact ⟨hprototypes, rfl⟩

end VulkanGen
