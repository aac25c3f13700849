import VulkanGen.Proofs.Block.Opening
import VulkanGen.Proofs.Header.RoundTrip

/-!
# Catalogs are read back

The scanner of declarations and the scanner of blocks know nothing of each other, so a
catalog is followed through both of them.  In the first one its declarations are one span
each, and no other line opens one; in the second one each block has a single region, which
its guard opens and its `#endif` ends.  The two agree because the region of a block covers
just the lines of its own declarations: those of the blocks above have smaller numbers, and
those of the blocks below larger ones.

## Key results

- `Catalog.reads_texts`: the declarations of a catalog are read
- `Catalog.ofLinesFrom_texts`: its blocks are read, with the regions behind their guards
- `Catalog.map_filter_blocks`: a region covers the declarations of its block
- `Catalog.parse_text`: a catalog is read back from its text
-/

namespace VulkanGen

/-! ## Lines -/

/-- Whether a text is one line that loses nothing at its line break. -/
structure Text.IsLine (cs : List Char) : Prop where
  not_break : '\n' ∉ cs
  not_return : cs.getLast? ≠ some '\r'

namespace Text

/-- A line that ends in no carriage return loses none. -/
private theorem IsLine.dropReturn_eq {cs : List Char} (h : IsLine cs) : dropReturn cs = cs :=
  if_neg h.not_return

/-- A text that is written line by line has these lines. -/
private theorem lines_flatMap_break {ls : List (List Char)} (h : ∀ l ∈ ls, IsLine l) :
    lines (ls.flatMap (· ++ ['\n'])) = ls := by
  induction ls with
  | nil => exact lines_nil
  | cons l ls ih =>
    -- the first break is the one behind `l`, as `l` holds none
    rw [List.forall_mem_cons] at h
    rw [List.flatMap_cons, List.append_assoc, List.singleton_append,
      lines_cons_break _ _ h.1.not_break, h.1.dropReturn_eq, ih h.2]

end Text

namespace Prototype

/-- A marked declaration starts with its first marker. -/
private theorem first_marked (p : Prototype) : p.marked.toList.head? = some 'V' := by
  have hmarker : attributeMarker.toList.head? = some 'V' := by decide
  show (attributeMarker ++ " " ++ p.returnType ++ " " ++ callMarker ++ " " ++ p.name ++ "(" ++
    p.parameters.render ++ ");").toList.head? = _
  simp [List.head?_append, hmarker]

/-- It ends in the semicolon. -/
private theorem last_marked (p : Prototype) : p.marked.toList.getLast? = some ';' := by
  show (attributeMarker ++ " " ++ p.returnType ++ " " ++ callMarker ++ " " ++ p.name ++ "(" ++
    p.parameters.render ++ ");").toList.getLast? = _
  have hend : ");".toList.getLast? = some ';' := by decide
  rw [String.toList_append, List.getLast?_append, hend, Option.some_or]

/-- A marked declaration is one line. -/
private theorem isLine_marked {p : Prototype} (h : p.WellFormed) : Text.IsLine p.marked.toList := by
  constructor
  · obtain ⟨d, hgrammar, hspelled, hd⟩ := h
    -- its lexemes hold no break, and neither do the spaces between them
    have htext := DeclarationLayout.text_plain hgrammar p.line
    rw [hd, DeclarationLayout.text, List.append_cancel_right_eq] at htext
    have hallowed := DeclarationLayout.allowed_plain d
    have hlexemes : ∀ l ∈ (DeclarationLayout.plain d).placed, l.lexeme.spelled = true := by
      intro l hl
      apply DeclarationForm.spelled_of_mem_lexemes (DeclarationForm.spelled_plain hspelled)
      exact hallowed.lexemes_eq ▸ List.mem_map_of_mem hl
    rw [← htext]
    have hplaced := not_break_of_gaps hlexemes (DeclarationLayout.close_plain d).not_break
    simpa [DeclarationLayout.plain] using hplaced
  · -- the last character is the semicolon
    rw [p.last_marked]
    decide

/-- A marked declaration is read on the line that it stands on. -/
private theorem reads_marked {p : Prototype} (h : p.WellFormed) (lineNo : Nat) :
    Extraction.Reads lineNo [p.marked.toList] [{ p with line := lineNo }] := by
  obtain ⟨d, hreadable, htext, hbreaks, _, hprototype⟩ := exists_layout_marked h
  obtain ⟨span, hspan, hread⟩ := DeclarationLayout.exists_span_ofSpan lineNo hreadable
  -- the text of the layout is this line and its break
  have hline := isLine_marked h
  rw [htext, Text.lines_break _ hline.not_break, hline.dropReturn_eq] at hspan
  rw [hbreaks, Nat.add_zero, hprototype] at hread
  exact Extraction.reads_of_ofSpan hspan hread

/-- Nothing is trimmed from a marked declaration. -/
private theorem first_trim_marked (p : Prototype) :
    (Text.trim p.marked.toList).head? = some 'V' := by
  rw [Text.trim_eq_self, p.first_marked]
  · rw [p.first_marked]
    simp [Text.isBlank]
  · rw [p.last_marked]
    simp [Text.isBlank]

end Prototype

/-- The opening of a block is one line. -/
private theorem BlockOpening.isLine_line {o : BlockOpening} (h : o.Valid) :
    Text.IsLine o.line.toList := by
  refine ⟨not_break_line h, ?_⟩
  rw [last_line]
  intro hreturn
  have hblank := o.not_blank_last_value '\r' hreturn
  simp [Text.isBlank] at hblank

/-! ## The declarations of a catalog -/

namespace CatalogBlock

/-- The lines of a block, which are written with a break behind each. -/
def texts (b : CatalogBlock) : List (List Char) :=
  b.lines.map String.toList

/-- A block has three lines besides its declarations. -/
private theorem length_texts (b : CatalogBlock) : b.texts.length = b.prototypes.length + 3 := by
  simp only [texts, lines, List.length_map, List.length_append, List.length_cons,
    List.length_nil]

/-- The lines of a block: its opening, the guard, the declarations and the end of the guard. -/
private theorem texts_eq (b : CatalogBlock) :
    b.texts = [b.opening.line.toList, Block.guardLine.toList] ++
      (b.prototypes.map (·.marked.toList) ++ [Block.guardEnd.toList]) := by
  simp [texts, lines]

/-- Each of them is one line. -/
private theorem isLine_of_mem {b : CatalogBlock} (hopening : b.opening.Valid)
    (hprototypes : ∀ p ∈ b.prototypes, p.WellFormed) : ∀ line ∈ b.texts, Text.IsLine line := by
  rw [texts_eq]
  simp only [List.forall_mem_append, List.forall_mem_cons, List.forall_mem_map]
  exact ⟨⟨BlockOpening.isLine_line hopening, ⟨by decide, by decide⟩, List.forall_mem_nil _⟩,
    fun p hp => Prototype.isLine_marked (hprototypes p hp), ⟨by decide, by decide⟩,
    List.forall_mem_nil _⟩

end CatalogBlock

namespace Catalog

/-- Declarations on consecutive lines are read on these lines. -/
private theorem reads_onLines {ps : List Prototype} (h : ∀ p ∈ ps, p.WellFormed) (lineNo : Nat) :
    Extraction.Reads lineNo (ps.map (·.marked.toList)) (onLines lineNo ps) := by
  induction ps generalizing lineNo with
  | nil => exact Extraction.reads_nil lineNo
  | cons p ps ih =>
    rw [List.forall_mem_cons] at h
    have hfirst := Prototype.reads_marked h.1 lineNo
    exact hfirst.append (ih h.2 (lineNo + 1))

end Catalog

/-- The declarations of a block are read, from two lines below its first one on. -/
theorem CatalogBlock.reads_texts {b : CatalogBlock} (hopening : b.opening.Valid)
    (hprototypes : ∀ p ∈ b.prototypes, p.WellFormed) (lineNo : Nat) :
    Extraction.Reads lineNo b.texts (Catalog.onLines (lineNo + 2) b.prototypes) := by
  have hline := isLine_of_mem hopening hprototypes
  rw [texts_eq] at hline ⊢
  -- of the other lines, none opens a declaration
  have habove : Extraction.Reads lineNo [b.opening.line.toList, Block.guardLine.toList] [] := by
    apply Extraction.reads_of_not_opens
    intro line hmem
    rw [(hline line (List.mem_append_left _ hmem)).dropReturn_eq]
    rcases List.mem_pair.mp hmem with rfl | rfl
    · exact BlockOpening.not_opensSpan_line hopening
    · decide +kernel
  have hbelow : Extraction.Reads (lineNo + 2 + b.prototypes.length) [Block.guardEnd.toList] [] :=
    Extraction.reads_of_not_opens _ (by decide +kernel)
  have hinside := Catalog.reads_onLines hprototypes (lineNo + 2)
  -- the end of the guard is numbered behind the lines of the declarations
  rw [← List.length_map (·.marked.toList)] at hbelow
  have hreads := habove.append (hinside.append hbelow)
  rwa [List.nil_append, List.append_nil] at hreads

namespace Catalog

/-- The prototypes of a catalog that starts on a line, from top to bottom. -/
def prototypes (line : Nat) (c : Catalog) : List Prototype :=
  (c.placed line).flatMap (·.2.2)

/-- The first block has its declarations two lines below its opening; the others follow. -/
private theorem prototypes_cons (line : Nat) (b : CatalogBlock) (c : Catalog) :
    prototypes line (b :: c) =
      onLines (line + 2) b.prototypes ++ prototypes (line + b.texts.length) c := by
  simp [prototypes, placed, CatalogBlock.texts]

/-- The declarations of a catalog are read. -/
theorem reads_texts {c : Catalog} (h : c.Valid) (lineNo : Nat) :
    Extraction.Reads lineNo (c.flatMap CatalogBlock.texts) (c.prototypes lineNo) := by
  induction c generalizing lineNo with
  | nil => exact Extraction.reads_nil lineNo
  | cons b c ih =>
    obtain ⟨⟨hopening, hprototypes⟩, hlater⟩ := List.forall_mem_cons.mp h
    rw [List.flatMap_cons, prototypes_cons]
    exact (CatalogBlock.reads_texts hopening hprototypes lineNo).append (ih hlater _)

end Catalog

/-! ## The blocks of a catalog -/

namespace Block

/-- A line that starts with another character than `#` opens no block. -/
private theorem Kind.ofDefine?_of_first {line : List Char} {c : Char} (h : line.head? = some c)
    (hc : c ≠ '#') : Kind.ofDefine? line = none := by
  have hstrip : Text.stripPrefix? "#define".toList line = none := by
    rw [← Option.not_isSome_iff_eq_none, Option.isSome_iff_exists]
    intro ⟨rest, hrest⟩
    rw [(Text.stripPrefix?_eq_some_iff _ _ _).mp hrest] at h
    exact hc (Option.some.inj h).symm
  simp only [ofDefine?, define?, hstrip]
  rfl

/-- A block behind the end of its last region. -/
def settled (b : Block) : Growing :=
  ⟨b.kind, b.line, b.prototypes, none⟩

/-- A settled block is closed as it is. -/
@[simp] theorem close_settled (b : Block) (stop : Nat) : b.settled.close stop = b := by
  simp [settled, Growing.close]

/-- Declarations leave the region that is open as it is. -/
private theorem ofLinesFrom_marked (lineNo : Nat) (kind : Kind) (line first : Nat)
    (regions : List Region) (ps : List Prototype) (rest : List (List Char)) :
    ofLinesFrom lineNo (some ⟨kind, line, regions, some first⟩)
        (ps.map (·.marked.toList) ++ rest) =
      ofLinesFrom (lineNo + ps.length) (some ⟨kind, line, regions, some first⟩) rest := by
  -- along the declarations, with the same region open all the way
  induction ps generalizing lineNo with
  | nil => rfl
  | cons p ps ih =>
    have hfirst := p.first_trim_marked
    -- a declaration starts with its marker, so it neither opens a block nor ends the region
    have hend : guardEnd.toList.isPrefixOf (Text.trim p.marked.toList) = false := by
      rw [Bool.eq_false_iff, ne_eq, List.isPrefixOf_iff_prefix]
      intro ⟨rest, hrest⟩
      rw [← hrest] at hfirst
      exact absurd hfirst (by simp [guardEnd])
    have hlength : lineNo + (p :: ps).length = lineNo + 1 + ps.length := by
      simp only [List.length_cons]
      omega
    rw [List.map_cons, List.cons_append,
      ofLinesFrom_cons_other _ _ _ (Kind.ofDefine?_of_first hfirst (by decide)), Option.map_some,
      hlength, ← ih (lineNo + 1)]
    simp only [Growing.read, hend, Bool.false_eq_true, if_false]

end Block

namespace CatalogBlock

/-- What the block that starts on a line is read as. -/
def block (line : Nat) (b : CatalogBlock) : Block :=
  ⟨b.opening.kind, line, [⟨line + 2, line + 2 + b.prototypes.length⟩]⟩

/-- The lines of a block end the block above and leave no region open. -/
theorem ofLinesFrom_texts {b : CatalogBlock} (hopening : b.opening.Valid) (lineNo : Nat)
    (above : Option Block) (rest : List (List Char)) :
    Block.ofLinesFrom lineNo (above.map Block.settled) (b.texts ++ rest) =
      above.toList ++
        Block.ofLinesFrom (lineNo + b.texts.length) (some (b.block lineNo).settled) rest := by
  have hguard : Block.Kind.ofDefine? (Text.trim Block.guardLine.toList) = none := by decide +kernel
  have hguardTrim : Text.trim Block.guardLine.toList = Block.guardLine.toList := by decide +kernel
  have hend : Block.Kind.ofDefine? (Text.trim Block.guardEnd.toList) = none := by decide +kernel
  have hendTrim : Text.trim Block.guardEnd.toList = Block.guardEnd.toList := by decide +kernel
  have habove : ((above.map Block.settled).map (·.close lineNo)).toList = above.toList := by
    cases above with
    | none => rfl
    | some block => simp
  -- the first line ends the block above and opens this one
  rw [length_texts, texts_eq, List.append_assoc, List.cons_append, List.cons_append,
    List.nil_append, Block.ofLinesFrom_cons_define _ _ _ (BlockOpening.ofDefine?_line hopening),
    habove, Block.ofLinesFrom_cons_other _ _ _ hguard, hguardTrim, Option.map_some]
  -- the guard opens the region on the line below it
  have hopen : (Block.Growing.start b.opening.kind lineNo).read (lineNo + 1)
      Block.guardLine.toList = ⟨b.opening.kind, lineNo, [], some (lineNo + 2)⟩ := by
    simp [Block.Growing.start, Block.Growing.read]
  -- the declarations leave it open, and the last line ends it in front of itself
  rw [hopen, List.append_assoc, Block.ofLinesFrom_marked, List.cons_append, List.nil_append,
    Block.ofLinesFrom_cons_other _ _ _ hend, hendTrim, Option.map_some]
  have hclose : (⟨b.opening.kind, lineNo, [], some (lineNo + 2)⟩ : Block.Growing).read
      (lineNo + 1 + 1 + b.prototypes.length) Block.guardEnd.toList =
        (b.block lineNo).settled := by
    simp [Block.Growing.read, block, Block.settled]
  have hlength : lineNo + 1 + 1 + b.prototypes.length + 1 =
      lineNo + (b.prototypes.length + 3) := by omega
  rw [hclose, hlength]

end CatalogBlock

namespace Catalog

/-- What the blocks of a catalog that starts on a line are read as. -/
def blocks (line : Nat) : Catalog → List Block
  | [] => []
  | b :: c => b.block line :: blocks (line + b.texts.length) c

/-- The blocks of a catalog are read. -/
theorem ofLinesFrom_texts {c : Catalog} (h : c.Valid) (lineNo : Nat) (above : Option Block) :
    Block.ofLinesFrom lineNo (above.map Block.settled) (c.flatMap CatalogBlock.texts) =
      above.toList ++ c.blocks lineNo := by
  induction c generalizing lineNo above with
  | nil => cases above <;> simp [blocks]
  | cons b c ih =>
    obtain ⟨⟨hopening, _⟩, hlater⟩ := List.forall_mem_cons.mp h
    have hbelow := ih hlater (lineNo + b.texts.length) (some (b.block lineNo))
    rw [Option.map_some] at hbelow
    rw [List.flatMap_cons, CatalogBlock.ofLinesFrom_texts hopening, hbelow]
    rfl

/-! ## The declarations of each block -/

/-- Declarations on consecutive lines are on these lines. -/
private theorem line_of_mem_onLines {line : Nat} {ps : List Prototype} {p : Prototype}
    (h : p ∈ onLines line ps) : line ≤ p.line ∧ p.line < line + ps.length := by
  -- each declaration takes one line, so the others start one line further down
  induction ps generalizing line with
  | nil => exact nomatch h
  | cons q ps ih =>
    rw [List.length_cons]
    rcases List.mem_cons.mp h with rfl | hlater
    · show line ≤ line ∧ line < _
      omega
    · have := ih hlater
      omega

/-- No declaration of a catalog stands above the catalog. -/
private theorem le_line_of_mem_prototypes {line : Nat} {c : Catalog} {p : Prototype}
    (h : p ∈ c.prototypes line) : line ≤ p.line := by
  induction c generalizing line with
  | nil => exact nomatch h
  | cons b c ih =>
    rw [prototypes_cons, List.mem_append] at h
    rcases h with hfirst | hlater
    · have := line_of_mem_onLines hfirst
      omega
    · have := ih hlater
      omega

/-- The region of a block covers the lines behind the guard, as many as it declares. -/
private theorem contains_block (line : Nat) (b : CatalogBlock) (n : Nat) :
    (b.block line).contains n = true ↔ line + 2 ≤ n ∧ n < line + 2 + b.prototypes.length := by
  simp [CatalogBlock.block, Block.contains, Block.Region.contains]

/-- The region of a block covers the declarations of the block, and neither those above it
nor those below it. -/
theorem map_filter_blocks (c : Catalog) (line : Nat) {above : List Prototype}
    (habove : ∀ p ∈ above, p.line < line) :
    (c.blocks line).map (fun b =>
        (b.kind, b.line, (above ++ c.prototypes line).filter (b.contains ·.line))) =
      c.placed line := by
  -- along the blocks, `above` grows by the declarations of each
  induction c generalizing line above with
  | nil => rfl
  | cons b c ih =>
    let own := onLines (line + 2) b.prototypes
    have hown : ∀ p ∈ own, line + 2 ≤ p.line ∧ p.line < line + 2 + b.prototypes.length :=
      fun p hp => line_of_mem_onLines hp
    have hlength := b.length_texts
    -- for the induction: what is above the next block includes the declarations of this one
    have hnext : ∀ p ∈ above ++ own, p.line < line + b.texts.length := by
      intro p hp
      rcases List.mem_append.mp hp with hp | hp
      · have := habove p hp
        omega
      · have := (hown p hp).2
        omega
    -- of the three runs of declarations, the filter keeps exactly the middle one
    have hkept : own.filter (fun p => (b.block line).contains p.line) = own := by
      rw [List.filter_eq_self]
      intro p hp
      exact (contains_block line b p.line).mpr (hown p hp)
    have hdropAbove : above.filter (fun p => (b.block line).contains p.line) = [] := by
      rw [List.filter_eq_nil_iff]
      intro p hp hcontains
      have := (contains_block line b p.line).mp hcontains
      have := habove p hp
      omega
    have hdropBelow : (prototypes (line + b.texts.length) c).filter
        (fun p => (b.block line).contains p.line) = [] := by
      rw [List.filter_eq_nil_iff]
      intro p hp hcontains
      have := (contains_block line b p.line).mp hcontains
      have := le_line_of_mem_prototypes hp
      omega
    -- the blocks that follow are the induction, with all declarations above them
    have hlater := ih (line + b.texts.length) hnext
    rw [List.append_assoc] at hlater
    rw [prototypes_cons, blocks, List.map_cons, hlater, List.filter_append, List.filter_append,
      hkept, hdropAbove, hdropBelow, List.nil_append, List.append_nil, placed]
    simp only [CatalogBlock.texts, List.length_map]
    rfl

/-- A declaration stands on the line that it is read on. -/
private theorem getElem?_of_mem_onLines {line : Nat} {ps : List Prototype} {p : Prototype}
    (h : p ∈ onLines line ps) :
    (ps.map (·.marked.toList))[p.line - line]? = some p.marked.toList := by
  induction ps generalizing line with
  | nil => exact nomatch h
  | cons q ps ih =>
    rcases List.mem_cons.mp h with rfl | hlater
    · show (_ :: _)[line - line]? = _
      rw [Nat.sub_self]
      rfl
    · have hline := line_of_mem_onLines hlater
      have hsub : p.line - line = p.line - (line + 1) + 1 := by omega
      rw [hsub, List.map_cons, List.getElem?_cons_succ]
      exact ih hlater

/-- A declaration of a catalog stands on the line that it is read on. -/
private theorem getElem?_of_mem_prototypes {line : Nat} {c : Catalog} {p : Prototype}
    (h : p ∈ c.prototypes line) :
    (c.flatMap CatalogBlock.texts)[p.line - line]? = some p.marked.toList := by
  induction c generalizing line with
  | nil => exact nomatch h
  | cons b c ih =>
    have hlength := b.length_texts
    rw [prototypes_cons, List.mem_append] at h
    rw [List.flatMap_cons]
    rcases h with hown | hlater
    · -- two lines stand in front of the declarations of a block
      have hline := line_of_mem_onLines hown
      have hsub : p.line - line = p.line - (line + 2) + 2 := by omega
      have hlt : p.line - (line + 2) < (b.prototypes.map (·.marked.toList)).length := by
        rw [List.length_map]
        omega
      rw [List.getElem?_append_left (by omega), CatalogBlock.texts_eq, hsub]
      show (b.prototypes.map (·.marked.toList) ++ [Block.guardEnd.toList])[p.line - (line + 2)]? = _
      rw [List.getElem?_append_left hlt]
      exact getElem?_of_mem_onLines hown
    · -- the lines of this block stand in front of all later ones
      have hline := le_line_of_mem_prototypes hlater
      have hsub : p.line - line - b.texts.length = p.line - (line + b.texts.length) := by omega
      rw [List.getElem?_append_right (by omega), hsub]
      exact ih hlater

/-! ## The text of a catalog -/

/-- The text of a catalog is written line by line. -/
private theorem toList_text (c : Catalog) :
    c.text.toList = (c.flatMap CatalogBlock.texts).flatMap (· ++ ['\n']) := by
  have hbreak : "\n".toList = ['\n'] := by decide
  unfold text
  rw [String.toList_join, List.flatMap_assoc, List.flatMap_assoc]
  congr 1
  funext b
  simp only [CatalogBlock.texts, List.flatMap_map, String.toList_append, hbreak]

/-- The lines of a catalog's text are those of its blocks. -/
private theorem lines_text (name : String) {c : Catalog} (h : c.Valid) :
    (Header.mk name c.text).lines = c.flatMap CatalogBlock.texts := by
  show Text.lines c.text.toList = _
  rw [toList_text]
  apply Text.lines_flatMap_break
  intro line hline
  obtain ⟨b, hb, hmem⟩ := List.mem_flatMap.mp hline
  exact CatalogBlock.isLine_of_mem (h b hb).1 (h b hb).2 line hmem

/-- A catalog is read back from its text: it has the blocks that it was written from, each
with its own declarations on the lines where they stand, and nothing is diagnosed. -/
theorem parse_text (name : String) {c : Catalog} (h : c.Valid) :
    let header := Header.mk name c.text
    let parsed := header.parse
    parsed.blocks.map (fun b => (b.kind, b.line, parsed.prototypesOf b)) = c.placed 1 ∧
      parsed.diagnostics = [] ∧
      parsed.prototypes = (c.placed 1).flatMap (·.2.2) ∧
      ∀ p ∈ parsed.prototypes, header.lines[p.line - 1]? = some p.marked.toList := by
  intro header parsed
  have hlines : header.lines = c.flatMap CatalogBlock.texts := lines_text name h
  -- the declarations and the blocks are read from the same lines, apart from each other
  have hreads : Extraction.Reads 1 header.lines (c.prototypes 1) := by
    rw [hlines]
    exact reads_texts h 1
  obtain ⟨hprototypes, hdiagnostics⟩ := Header.parse_of_reads hreads
  have hblocks : parsed.blocks = c.blocks 1 := by
    show Block.ofLinesFrom 1 none header.lines = _
    rw [hlines]
    exact ofLinesFrom_texts h 1 none
  refine ⟨?_, hdiagnostics, hprototypes, ?_⟩
  · rw [hblocks]
    unfold ParsedHeader.prototypesOf
    rw [show parsed.prototypes = c.prototypes 1 from hprototypes]
    -- which block a declaration belongs to is then a matter of line numbers
    exact map_filter_blocks c 1 (List.forall_mem_nil _)
  · -- and each declaration is the line that it was written in
    intro p hp
    rw [show parsed.prototypes = c.prototypes 1 from hprototypes] at hp
    rw [hlines]
    exact getElem?_of_mem_prototypes hp

end Catalog

/-- The declaration `void vkStop(const int* ids[4]);`. -/
def stopForm : DeclarationForm where
  returnType := [.word "void"]
  name := "vkStop"
  parameters := .list ⟨[.word "const", .word "int", .star], "ids", some "4"⟩ []

/-- A block that declares one function twice, one that declares nothing, and one that
declares the function again. -/
def repeatingCatalog : Catalog :=
  [⟨.core "1_0", [stopForm.prototype 0, stopForm.prototype 0]⟩,
    ⟨.extension "VK_KHR_NONE" "VK_KHR_none", []⟩,
    ⟨.extension "VK_KHR_STOP" "VK_KHR_stop", [stopForm.prototype 0]⟩]

/-- The three declarations are on the lines 3, 4 and 11, and each block has its own. -/
theorem Catalog.parse_text_repeating :
    let parsed := (Header.mk "a.h" repeatingCatalog.text).parse
    let stop := stopForm.prototype
    parsed.blocks.map (fun b => (b.kind, b.line, parsed.prototypesOf b)) =
        [(.core "1_0", 1, [stop 3, stop 4]), (.extension "VK_KHR_none", 6, []),
          (.extension "VK_KHR_stop", 9, [stop 11])] ∧
      parsed.diagnostics = [] ∧ parsed.prototypes = [stop 3, stop 4, stop 11] := by
  intro parsed stop
  have hstop : (stop 0).WellFormed := ⟨stopForm, by decide +kernel, by decide +kernel, rfl⟩
  -- each block is checked by itself; the second one has no declarations
  have hvalid : repeatingCatalog.Valid := by
    simp only [Valid, repeatingCatalog, List.forall_mem_cons]
    exact ⟨⟨by decide +kernel, hstop, hstop, nofun⟩, ⟨by decide +kernel, nofun⟩,
      ⟨by decide +kernel, hstop, nofun⟩, nofun⟩
  obtain ⟨hblocks, hdiagnostics, hprototypes, _⟩ := parse_text "a.h" hvalid
  exact ⟨hblocks, hdiagnostics, hprototypes⟩

end VulkanGen
