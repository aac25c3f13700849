import VulkanGen.Proofs.Declaration.Layouts
import VulkanGen.Proofs.Declaration.Plain

/-!
# Declarations are read back

Declarations that are written one below the other, each in a layout of its own, are
read back as they are, in order, each on the line of its first marker.

## Key results

- `DeclarationLayout.reads_layouts`: the declarations of such a header are read
- `Header.parse_layouts`: its prototypes, and that it has no diagnostics
-/

namespace VulkanGen

/-- Everything that a layout needs to be read back. -/
structure DeclarationLayout.Readable (d : DeclarationLayout) : Prop where
  inGrammar : d.form.InGrammar
  spelled : d.form.Spelled
  allowed : d.Allowed

namespace DeclarationLayout

/-- Whether a layout is readable can be decided, part by part. -/
instance (d : DeclarationLayout) : Decidable d.Readable :=
  decidable_of_iff (d.form.InGrammar ∧ d.form.Spelled ∧ d.Allowed)
    ⟨fun ⟨h₁, h₂, h₃⟩ => ⟨h₁, h₂, h₃⟩, fun h => ⟨h.1, h.2, h.3⟩⟩

/-- The text of a layout ends where a line ends. -/
private theorem endsInBreak_text (d : DeclarationLayout) : Text.EndsInBreak d.text := by
  intro c hc
  rw [text, List.getLast?_concat] at hc
  exact (Option.some.inj hc).symm

/-- The span of a readable layout is what the layout declares. -/
theorem exists_span_ofSpan (lineNo : Nat) {d : DeclarationLayout} (h : d.Readable) :
    ∃ span, Extraction.ofLinesFrom lineNo none (Text.lines d.text) = ⟨[span], none⟩ ∧
      Prototype.ofSpan span = .ok (d.form.prototype (lineNo + d.leadingBreaks)) := by
  obtain ⟨span, hspan, hline, hlexemes⟩ := exists_span lineNo h.spelled h.allowed
  refine ⟨span, hspan, (Prototype.ofSpan_eq_ok_iff _ _).mpr ?_⟩
  exact ⟨d.form, h.inGrammar, h.spelled, hlexemes, by rw [hline]⟩

/-- Layouts one below the other are read one by one. -/
theorem reads_layouts (lineNo : Nat) {ds : List DeclarationLayout} (h : ∀ d ∈ ds, d.Readable) :
    Extraction.Reads lineNo (Text.lines (ds.flatMap text)) (prototypesFrom lineNo ds) := by
  induction ds generalizing lineNo with
  | nil =>
    rw [List.flatMap_nil, Text.lines_nil]
    exact Extraction.reads_nil lineNo
  | cons d ds ih =>
    rw [List.forall_mem_cons] at h
    obtain ⟨span, hspan, hread⟩ := exists_span_ofSpan lineNo h.1
    -- the first layout is one span, which is read as it declares
    have hfirst := Extraction.reads_of_ofSpan hspan hread
    -- the later layouts stand below as many lines as the first one has breaks
    have hlater := ih (lineNo + d.text.count '\n') h.2
    rw [← Text.length_lines d.endsInBreak_text] at hlater
    rw [List.flatMap_cons, Text.lines_append d.endsInBreak_text, prototypesFrom,
      ← List.singleton_append, ← Text.length_lines d.endsInBreak_text]
    exact hfirst.append hlater

end DeclarationLayout

/-- A header of declarations in layouts declares exactly what they declare, and
nothing in it is diagnosed. -/
theorem Header.parse_layouts (name : String) {ds : List DeclarationLayout}
    (h : ∀ d ∈ ds, d.Readable) {text : String}
    (htext : text.toList = ds.flatMap DeclarationLayout.text) :
    (Header.mk name text).parse.prototypes = DeclarationLayout.prototypesFrom 1 ds ∧
      (Header.mk name text).parse.diagnostics = [] := by
  apply parse_of_reads
  show Extraction.Reads 1 (Text.lines text.toList) _
  rw [htext]
  exact DeclarationLayout.reads_layouts 1 h

/-! ## Signatures -/

namespace Prototype

/-- What a reader accepts is well formed. -/
theorem wellFormed_of_ofSpan {span : Span} {p : Prototype} (h : ofSpan span = .ok p) :
    p.WellFormed := by
  obtain ⟨d, hgrammar, hform, _, rfl⟩ := (ofSpan_eq_ok_iff span p).mp h
  exact ⟨d, hgrammar, hform, rfl⟩

/-- The marked declaration is the signature with both markers put back. -/
private theorem marked_eq (p : Prototype) :
    ∃ rest, p.signature = p.returnType ++ " " ++ rest ∧
      p.marked = attributeMarker ++ " " ++ p.returnType ++ " " ++ callMarker ++ " " ++ rest := by
  refine ⟨p.name ++ "(" ++ p.parameters.render ++ ");", ?_, ?_⟩
  · simp only [signature, render, toString_string, ← String.toList_inj, String.toList_append]
    simp
  · simp only [marked, toString_string, ← String.toList_inj, String.toList_append]
    simp

/-- The marked declaration of a well-formed prototype is a readable layout. -/
theorem exists_layout_marked {p : Prototype} (h : p.WellFormed) :
    ∃ d : DeclarationLayout, d.Readable ∧ d.text = p.marked.toList ++ ['\n'] ∧
      d.leadingBreaks = 0 ∧ d.trailing = [] ∧ ∀ line, d.form.prototype line = { p with line } := by
  obtain ⟨d, hgrammar, hform, hd⟩ := h
  refine ⟨.plain d, ⟨DeclarationForm.inGrammar_plain hgrammar, DeclarationForm.spelled_plain hform,
    DeclarationLayout.allowed_plain d⟩, ?_, rfl, rfl, fun line => ?_⟩
  · rw [DeclarationLayout.text_plain hgrammar p.line, hd]
  · rw [← hd]
    exact DeclarationForm.prototype_plain d line

/-- The marked declaration of a well-formed prototype is read back. -/
private theorem ofSpan_marked {p : Prototype} (h : p.WellFormed) (line endLine : Nat) :
    ofSpan ⟨line, endLine, p.marked⟩ = .ok { p with line } := by
  obtain ⟨d, hreadable, htext, _, htrailing, hprototype⟩ := exists_layout_marked h
  rw [DeclarationLayout.text, htrailing, List.append_nil, List.append_cancel_right_eq] at htext
  -- without the break at its end, the text of the layout is the marked declaration
  have hallowed := hreadable.allowed
  have hspelled : ∀ l ∈ d.placed, l.lexeme.spelled = true := fun l hl =>
    DeclarationForm.spelled_of_mem_lexemes hreadable.spelled _
      (hallowed.lexemes_eq ▸ List.mem_map_of_mem hl)
  have hlexemes := Token.lexemes?_placed hspelled hallowed.blank_gaps hallowed.words_apart
    [] rfl
  rw [List.append_nil, htext, hallowed.lexemes_eq] at hlexemes
  exact (ofSpan_eq_ok_iff _ _).mpr
    ⟨d.form, hreadable.inGrammar, hreadable.spelled, hlexemes, hprototype line⟩

end Prototype

/-- Declarations are read back whatever their layout.  In particular, what is read
can be written as its signature with the markers put back, and read again. -/
theorem Header.round_trip (name : String) :
    (∀ ds : List DeclarationLayout, (∀ d ∈ ds, d.Readable) →
      let parsed := (Header.mk name (.ofList (ds.flatMap DeclarationLayout.text))).parse
      parsed.prototypes = DeclarationLayout.prototypesFrom 1 ds ∧ parsed.diagnostics = []) ∧
    ∀ (span : Span) (p : Prototype), Prototype.ofSpan span = .ok p →
      ∃ rest, p.signature = p.returnType ++ " " ++ rest ∧
        let marked := attributeMarker ++ " " ++ p.returnType ++ " " ++ callMarker ++ " " ++ rest
        (∀ line endLine, Prototype.ofSpan ⟨line, endLine, marked⟩ = .ok { p with line }) ∧
        let parsed := (Header.mk name (marked ++ "\n")).parse
        parsed.prototypes = [{ p with line := 1 }] ∧ parsed.diagnostics = [] := by
  -- the first half is the one on layouts; the second half finds a layout for the signature
  refine ⟨fun ds h => parse_layouts name h String.toList_ofList, fun span p hp => ?_⟩
  have hwellFormed := Prototype.wellFormed_of_ofSpan hp
  obtain ⟨rest, hsignature, hmarked⟩ := p.marked_eq
  -- a prototype that was read is well formed, and so has a layout on one line
  obtain ⟨d, hreadable, htext, hbreaks, _, hprototype⟩ := Prototype.exists_layout_marked hwellFormed
  refine ⟨rest, hsignature, ?_, ?_⟩
  · rw [← hmarked]
    exact Prototype.ofSpan_marked hwellFormed
  · -- the marked declaration and a line break are a header of one layout
    have hlayout : (p.marked ++ "\n").toList = [d].flatMap DeclarationLayout.text := by
      rw [String.toList_append, List.flatMap_singleton, htext]
      rfl
    have hone : ∀ e ∈ [d], e.Readable := List.forall_mem_singleton.mpr hreadable
    have hparsed := parse_layouts name hone hlayout
    rw [DeclarationLayout.prototypesFrom, DeclarationLayout.prototypesFrom, hbreaks,
      hprototype] at hparsed
    rw [← hmarked]
    exact hparsed

/-- A declaration over four lines, below an empty line, with carriage returns, a word
on a line of its own and leading zeros in an extent. -/
def spreadLayout : DeclarationLayout where
  form :=
    { returnType := [.word "const", .word "char", .star]
      name := "vkName"
      parameters := .list ⟨[.word "const", .star, .star], "pIds", some "0004"⟩
        [⟨[.word "int"], "x", none⟩] }
  placed := [
    ⟨['\r', '\n', '\t'], .word attributeMarker⟩, ⟨[' '], .word "const"⟩, ⟨[' '], .word "char"⟩,
    ⟨[], .mark .star⟩, ⟨[], .word callMarker⟩, ⟨['\r', '\r', '\n'], .word "vkName"⟩,
    ⟨[], .mark .leftParen⟩, ⟨['\n'], .word "const"⟩, ⟨[' '], .mark .star⟩, ⟨[' '], .mark .star⟩,
    ⟨[], .word "pIds"⟩, ⟨[], .mark .leftBracket⟩, ⟨[' '], .number "0004"⟩,
    ⟨[' '], .mark .rightBracket⟩, ⟨['\n'], .mark .comma⟩, ⟨[], .word "int"⟩, ⟨[' '], .word "x"⟩,
    ⟨[], .mark .rightParen⟩, ⟨[], .mark .semicolon⟩]
  trailing := [' ', '\r']

/-- A declaration with the word `void` for its parameters. -/
def voidLayout : DeclarationLayout where
  form := { returnType := [.word "void"], name := "vkStop", parameters := .void }
  placed := [
    ⟨[], .word attributeMarker⟩, ⟨[' '], .word "void"⟩, ⟨[' '], .word callMarker⟩,
    ⟨[' '], .word "vkStop"⟩, ⟨[' '], .mark .leftParen⟩, ⟨['\n'], .word "void"⟩,
    ⟨['\n'], .mark .rightParen⟩, ⟨[], .mark .semicolon⟩]
  trailing := []

/-- The two declarations, one below the other, are read back, and the second one,
which is read from a span of two lines as well, is read back from its signature. -/
theorem Header.round_trip_spread :
    let text := String.ofList ([spreadLayout, voidLayout].flatMap DeclarationLayout.text)
    let parsed := (Header.mk "a.h" text).parse
    let stop : Prototype := ⟨"vkStop", "void", .empty, 7⟩
    (∀ d ∈ [spreadLayout, voidLayout], d.Readable) ∧
      parsed.prototypes =
        [⟨"vkName", "const char*",
          ⟨[⟨"pIds", "const**", Extent.ofNat? 4⟩, ⟨"x", "int", none⟩]⟩, 2⟩,
        ⟨"vkStop", "void", .empty, 6⟩] ∧
      parsed.diagnostics = [] ∧
      Prototype.ofSpan ⟨7, 8, "VKAPI_ATTR void VKAPI_CALL\nvkStop ( void ) ;"⟩ = .ok stop ∧
      ∃ rest, stop.signature = "void" ++ " " ++ rest ∧
        let marked := "VKAPI_ATTR" ++ " " ++ "void" ++ " " ++ "VKAPI_CALL" ++ " " ++ rest
        (Header.mk "a.h" (marked ++ "\n")).parse.prototypes = [{ stop with line := 1 }] := by
  intro text parsed stop
  have hreadable : ∀ d ∈ [spreadLayout, voidLayout], d.Readable := by decide +kernel
  have hread :
      Prototype.ofSpan ⟨7, 8, "VKAPI_ATTR void VKAPI_CALL\nvkStop ( void ) ;"⟩ = .ok stop := by
    decide +kernel
  -- both halves of the theorem, at the two layouts and at the span
  obtain ⟨hlayouts, hspans⟩ := Header.round_trip "a.h"
  obtain ⟨hprototypes, hdiagnostics⟩ := hlayouts _ hreadable
  obtain ⟨rest, hsignature, _, hparsed, _⟩ := hspans _ _ hread
  refine ⟨hreadable, ?_, hdiagnostics, hread, rest, hsignature, hparsed⟩
  rw [show parsed.prototypes = _ from hprototypes]
  decide +kernel

end VulkanGen
