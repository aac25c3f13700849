import VulkanGen.Declaration.Layout
import VulkanGen.Proofs.List.Basic
import VulkanGen.Proofs.Token.Lexemes

/-!
# Declarations on one line

`Prototype.marked` writes a prototype on one line with as few blanks as it can.  That
is a layout of a form: of the form that the prototype was read from, with an empty
list for the word `void` and without the leading zeros of its extents.

## Key results

- `Text.decimal_toString`: a number is read back from its digits
- `DeclarationForm.prototype_plain`: the plain form declares the same
- `DeclarationLayout.close_plain`: on one line lexemes are kept apart by single spaces
- `DeclarationLayout.allowed_plain`: the layout on one line is allowed
- `DeclarationLayout.text_plain`: its text is the marked declaration
-/

namespace VulkanGen

/-! ## Digits -/

namespace Text

/-- Digits are read as a number by the function of the standard library. -/
private theorem decimal_eq (cs : List Char) : decimal cs = Nat.ofDigitChars 10 cs 0 := rfl

/-- A number is read back from its digits. -/
theorem decimal_toString (n : Nat) : decimal (toString n).toList = n := by
  rw [decimal_eq, Nat.toString_eq_ofList_toDigits, String.toList_ofList,
    Nat.ofDigitChars_ten_toDigits]

end Text

/-- The digits of a number make a number token. -/
theorem isNumeral_toString (n : Nat) : isNumeral (toString n) = true := by
  rw [isNumeral, Nat.toString_eq_ofList_toDigits, String.toList_ofList, Bool.and_eq_true,
    List.all_eq_true]
  refine ⟨?_, fun c hc => Nat.isDigit_of_mem_toDigits (by omega) (by omega) hc⟩
  simp

/-! ## Plain forms -/

namespace ParameterForm

/-- A parameter with its extent written without leading zeros. -/
def plain (p : ParameterForm) : ParameterForm :=
  { p with extent := p.size?.map fun extent => toString extent.size }

/-- The plain form of a parameter has the same extent. -/
private theorem size?_plain (p : ParameterForm) : p.plain.size? = p.size? := by
  rw [size?, plain]
  cases p.size? with
  | none => rfl
  | some extent =>
    -- the digits are those of an extent, so that they are not out of its range
    rw [Option.map_some, Option.bind_some, Text.decimal_toString, Extent.ofNat?_size]

/-- The plain form of a parameter declares the same parameter. -/
private theorem parameter_plain (p : ParameterForm) : p.plain.parameter = p.parameter := by
  rw [parameter, size?_plain, parameter]
  rfl

/-- The plain form of a parameter stays in the grammar. -/
theorem inGrammar_plain {p : ParameterForm} (h : p.InGrammar) : p.plain.InGrammar := by
  refine ⟨h.1, fun hextent => ?_⟩
  rw [size?_plain]
  simpa [plain] using hextent

/-- The words of a plain parameter are words, and its extent is a number. -/
theorem spelled_plain {p : ParameterForm} (h : p.Spelled) : p.plain.Spelled := by
  refine ⟨h.1, h.2.1, ?_⟩
  intro digits hdigits
  obtain ⟨extent, _, rfl⟩ := Option.map_eq_some_iff.mp hdigits
  exact isNumeral_toString extent.size

end ParameterForm

/-- A parameter list with its extents written without leading zeros, and nothing for `void`. -/
def ParametersForm.plain : ParametersForm → ParametersForm
  | nothing | void => nothing
  | list first later => list first.plain (later.map ParameterForm.plain)

/-- A plain parameter list holds the plain forms of its parameters. -/
private theorem ParametersForm.toList_plain (f : ParametersForm) :
    f.plain.toList = f.toList.map ParameterForm.plain := by
  cases f <;> rfl

namespace DeclarationForm

/-- A declaration with a plain parameter list. -/
def plain (d : DeclarationForm) : DeclarationForm :=
  { d with parameters := d.parameters.plain }

/-- The plain form of a declaration declares the same. -/
theorem prototype_plain (d : DeclarationForm) (line : Nat) :
    d.plain.prototype line = d.prototype line := by
  simp only [prototype, plain, ParametersForm.toList_plain, List.map_map, Function.comp_def,
    ParameterForm.parameter_plain]

/-- The plain form of a declaration stays in the grammar. -/
theorem inGrammar_plain {d : DeclarationForm} (h : d.InGrammar) : d.plain.InGrammar := by
  refine ⟨h.1, h.2.1, ?_⟩
  rw [plain, ParametersForm.toList_plain, List.forall_mem_map]
  exact fun p hp => ParameterForm.inGrammar_plain (h.2.2 p hp)

/-- The words of a plain declaration are words, and its extents are numbers. -/
theorem spelled_plain {d : DeclarationForm} (h : d.Spelled) : d.plain.Spelled := by
  refine ⟨h.1, h.2.1, ?_⟩
  rw [plain, ParametersForm.toList_plain, List.forall_mem_map]
  exact fun p hp => ParameterForm.spelled_plain (h.2.2 p hp)

end DeclarationForm

/-! ## Placing lexemes -/

/-- Whether the first of some lexemes may follow a word. -/
def MayFollow (placed : List PlacedLexeme) : Prop :=
  ∀ m ∈ placed.head?, m.lexeme.isWord = true → m.gap ≠ []

/-- A lexeme may stand in front of lexemes that are apart, unless it and the next one are words
without a gap. -/
private theorem wordsApart_cons {l : PlacedLexeme} {placed : List PlacedLexeme}
    (hfollow : l.lexeme.isWord = true → MayFollow placed) (h : WordsApart placed) :
    WordsApart (l :: placed) := by
  cases placed with
  | nil => trivial
  | cons m placed => exact ⟨fun hl => hfollow hl m rfl, h⟩

/-- Two runs of lexemes that are apart stay so in a row if the second may follow a word. -/
private theorem wordsApart_append {as bs : List PlacedLexeme} (has : WordsApart as)
    (hbs : WordsApart bs) (hfollow : MayFollow bs) : WordsApart (as ++ bs) := by
  induction as with
  | nil => exact hbs
  | cons l as ih =>
    -- the condition is on two neighbours, and only the last of `as` meets one of `bs`
    cases as with
    | nil => exact wordsApart_cons (fun _ => hfollow) hbs
    | cons m as => exact ⟨has.1, ih has.2⟩

/-- Lexemes with a blank in front of each word are apart. -/
private theorem wordsApart_of_gaps {placed : List PlacedLexeme}
    (h : ∀ m ∈ placed, m.lexeme.isWord = true → m.gap ≠ []) : WordsApart placed := by
  induction placed with
  | nil => trivial
  | cons l placed ih =>
    rw [List.forall_mem_cons] at h
    -- a word behind `l` has a blank in front of it, so `l` may be anything
    exact wordsApart_cons (fun _ m hm => h.2 m (List.mem_of_mem_head? hm)) (ih h.2)

/-- The gap of a part of a type behind another one. -/
def TypeWord.gap : TypeWord → List Char
  | word _ => [' ']
  | star => []

/-- A type behind a gap. -/
def placedType (gap : List Char) : List TypeWord → List PlacedLexeme
  | [] => []
  | w :: ws => ⟨gap, w.lexeme⟩ :: ws.map fun w => ⟨w.gap, w.lexeme⟩

/-- A part of a type is rendered with its gap in front of it. -/
private theorem TypeWord.behind_eq (w : TypeWord) : w.behind = w.gap ++ w.lexeme.text.toList := by
  cases w with
  | word text => rfl
  | star => simp [behind, gap, lexeme, Lexeme.mark, Token.Kind.mark?]

/-- Placing a type does not change its lexemes. -/
private theorem map_lexeme_placedType (gap : List Char) (ws : List TypeWord) :
    (placedType gap ws).map (·.lexeme) = ws.map TypeWord.lexeme := by
  cases ws <;> simp [placedType, Function.comp_def]

/-- The text of a type is its rendering. -/
private theorem text_placedType (gap : List Char) {ws : List TypeWord} (h : ws ≠ []) :
    (placedType gap ws).flatMap PlacedLexeme.text = gap ++ (TypeWord.render ws).toList := by
  cases ws with
  | nil => exact absurd rfl h
  | cons w ws =>
    -- behind the first part, a part is placed with the gap that rendering gives it
    have hlater : (ws.map fun w => (⟨w.gap, w.lexeme⟩ : PlacedLexeme)).flatMap PlacedLexeme.text =
        ws.flatMap TypeWord.behind := by
      rw [List.flatMap_map]
      exact congrArg (List.flatMap · ws) (funext fun w => w.behind_eq.symm)
    rw [placedType, List.flatMap_cons, hlater, PlacedLexeme.text, List.append_assoc]
    cases w with
    -- rendering leaves out the space in front of the first part, which is `gap` here
    | word text => rw [TypeWord.render, String.toList_ofList]; rfl
    | star => simp [TypeWord.render, TypeWord.lexeme, Lexeme.mark, Token.Kind.mark?]

/-- The parts of a placed type are apart. -/
private theorem wordsApart_placedType (gap : List Char) (ws : List TypeWord) :
    WordsApart (placedType gap ws) := by
  cases ws with
  | nil => trivial
  | cons w ws =>
    -- only words need a gap, and stars are the only parts without one
    have hlater : ∀ m ∈ ws.map fun w => (⟨w.gap, w.lexeme⟩ : PlacedLexeme),
        m.lexeme.isWord = true → m.gap ≠ [] := by
      rw [List.forall_mem_map]
      intro v _
      cases v with
      | word text => exact fun _ => List.cons_ne_nil _ _
      | star => exact fun h => nomatch h
    exact wordsApart_cons (fun _ m hm => hlater m (List.mem_of_mem_head? hm))
      (wordsApart_of_gaps hlater)

/-- A type behind a gap may follow a word. -/
private theorem mayFollow_placedType {gap : List Char} (hgap : gap ≠ []) (ws : List TypeWord) :
    MayFollow (placedType gap ws) := by
  cases ws with
  | nil => exact nofun
  | cons w ws =>
    rintro m ⟨⟩ _
    exact hgap

/-- Whether lexemes follow each other directly or behind one space. -/
def Close (placed : List PlacedLexeme) : Prop :=
  ∀ l ∈ placed, l.gap = [] ∨ l.gap = [' ']

/-- A lexeme behind at most one space may stand in front of close lexemes. -/
private theorem close_cons {l : PlacedLexeme} {placed : List PlacedLexeme}
    (hl : l.gap = [] ∨ l.gap = [' ']) (h : Close placed) : Close (l :: placed) :=
  List.forall_mem_cons.mpr ⟨hl, h⟩

/-- Two runs of close lexemes make one. -/
private theorem close_append {as bs : List PlacedLexeme} (has : Close as) (hbs : Close bs) :
    Close (as ++ bs) :=
  List.forall_mem_append.mpr ⟨has, hbs⟩

/-- The gaps of close lexemes are blank. -/
theorem Close.blank {placed : List PlacedLexeme} (h : Close placed) :
    ∀ l ∈ placed, l.gap.all Text.isBlank = true := by
  intro l hl
  rcases h l hl with hgap | hgap
  · rw [hgap, List.all_nil]
  · simp [hgap, Token.isBlank_space]

/-- Close lexemes stand on one line. -/
theorem Close.not_break {placed : List PlacedLexeme} (h : Close placed) :
    ∀ l ∈ placed, '\n' ∉ l.gap := by
  intro l hl
  rcases h l hl with hgap | hgap
  · rw [hgap]
    exact List.not_mem_nil
  · rw [hgap]
    decide

/-- The parts of a type are close. -/
private theorem close_placedType {gap : List Char} (hgap : gap = [] ∨ gap = [' '])
    (ws : List TypeWord) :
    Close (placedType gap ws) := by
  cases ws with
  | nil => exact nofun
  | cons w ws =>
    apply close_cons hgap
    unfold Close
    rw [List.forall_mem_map]
    intro v _
    -- a word stands behind a space, a star directly
    cases v with
    | word text => exact .inr rfl
    | star => exact .inl rfl

/-- An extent, close to the name in front of it. -/
def placedExtent : Option String → List PlacedLexeme
  | none => []
  | some digits => [⟨[], .mark .leftBracket⟩, ⟨[], .number digits⟩, ⟨[], .mark .rightBracket⟩]

/-- A parameter behind a gap. -/
def ParameterForm.placed (gap : List Char) (p : ParameterForm) : List PlacedLexeme :=
  placedType gap p.type ++ ⟨[' '], .word p.name⟩ :: placedExtent p.extent

namespace ParameterForm

/-- Placing a parameter does not change its lexemes. -/
private theorem map_lexeme_placed (gap : List Char) (p : ParameterForm) :
    (p.placed gap).map (·.lexeme) = p.lexemes := by
  rw [placed, List.map_append, map_lexeme_placedType, List.map_cons, lexemes]
  cases p.extent <;> rfl

/-- The text of a plain parameter is its rendering. -/
private theorem text_placed (gap : List Char) {p : ParameterForm} (h : p.InGrammar) :
    (p.plain.placed gap).flatMap PlacedLexeme.text = gap ++ p.parameter.render.toList := by
  have htype := text_placedType gap h.1
  rw [placed, List.flatMap_append, plain, htype, Parameter.render, parameter]
  cases p.size? with
  | none => simp [placedExtent, PlacedLexeme.text, Lexeme.word, toString_string]
  | some extent =>
    simp [placedExtent, PlacedLexeme.text, Lexeme.word, Lexeme.number, Lexeme.mark,
      Token.Kind.mark?, toString_string]

/-- The lexemes of a placed parameter are apart. -/
private theorem wordsApart_placed (gap : List Char) (p : ParameterForm) : WordsApart
    (p.placed gap) := by
  -- an extent has no words, so it is apart and may follow the name
  have hextent : WordsApart (placedExtent p.extent) := by
    cases p.extent with
    | none => trivial
    | some digits => exact ⟨nofun, fun _ => nofun, trivial⟩
  have hfollow : MayFollow (placedExtent p.extent) := by
    cases p.extent with
    | none => exact fun _ h => nomatch h
    | some digits => rintro m ⟨⟩ h; exact nomatch h
  have hname := wordsApart_cons (l := ⟨[' '], .word p.name⟩) (fun _ => hfollow) hextent
  refine wordsApart_append (wordsApart_placedType _ _) hname ?_
  -- a space stands in front of the name
  rintro m ⟨⟩ _
  exact List.cons_ne_nil _ _

/-- The lexemes of a placed parameter are close. -/
private theorem close_placed {gap : List Char} (hgap : gap = [] ∨ gap = [' ']) (p : ParameterForm) :
    Close (p.placed gap) := by
  apply close_append (close_placedType hgap p.type)
  apply close_cons (.inr rfl)
  cases p.extent <;> simp [Close, placedExtent]

end ParameterForm

/-- What stands between the parentheses, with a space behind each comma. -/
def ParametersForm.placed : ParametersForm → List PlacedLexeme
  | nothing => []
  | void => [⟨[], .word "void"⟩]
  | list first later =>
    first.placed [] ++ later.flatMap fun p => ⟨[], .mark .comma⟩ :: p.placed [' ']

namespace ParametersForm

/-- Placing a parameter list does not change its lexemes. -/
private theorem map_lexeme_placed (f : ParametersForm) : f.placed.map (·.lexeme) = f.lexemes := by
  cases f with
  | nothing | void => rfl
  | list first later =>
    simp only [placed, lexemes, List.map_append, ParameterForm.map_lexeme_placed,
      List.map_flatMap, List.map_cons]

/-- The text of a plain parameter list is its rendering. -/
private theorem text_placed {f : ParametersForm} (h : ∀ p ∈ f.toList, p.InGrammar) :
    f.plain.placed.flatMap PlacedLexeme.text =
      (ParameterList.render ⟨f.toList.map (·.parameter)⟩).toList := by
  cases f with
  | nothing | void => rfl
  | list first later =>
    rw [toList, List.forall_mem_cons] at h
    -- a later parameter is a comma, a space and its own rendering
    have hlater : ((later.map ParameterForm.plain).flatMap fun p =>
        ⟨[], .mark .comma⟩ :: p.placed [' ']).flatMap PlacedLexeme.text =
          later.flatMap fun p => ", ".toList ++ p.parameter.render.toList := by
      rw [List.flatMap_map, List.flatMap_assoc]
      refine List.flatMap_congr fun p hp => ?_
      rw [List.flatMap_cons, ParameterForm.text_placed [' '] (h.2 p hp)]
      rfl
    -- the rendering puts the same text between parameters, by `intercalate`
    rw [plain, placed, List.flatMap_append, ParameterForm.text_placed [] h.1, hlater, toList,
      ParameterList.render, String.toList_intercalate]
    simp only [List.map_cons, List.intercalate_cons_eq, List.map_map, List.flatMap_map,
      Function.comp_apply, List.nil_append]

/-- The lexemes of a placed parameter list are apart. -/
private theorem wordsApart_placed (f : ParametersForm) : WordsApart f.placed := by
  cases f with
  | nothing | void => trivial
  | list first later =>
    have hlater : WordsApart (later.flatMap fun p => ⟨[], .mark .comma⟩ :: p.placed [' ']) ∧
        MayFollow (later.flatMap fun p => ⟨[], .mark .comma⟩ :: p.placed [' ']) := by
      -- each parameter starts with a comma, which may follow a word
      induction later with
      | nil => exact ⟨trivial, fun _ h => nomatch h⟩
      | cons p later ih =>
        rw [List.flatMap_cons]
        refine ⟨wordsApart_append (wordsApart_cons (fun h => nomatch h) (p.wordsApart_placed _))
          ih.1 ih.2, ?_⟩
        rintro m ⟨⟩ h
        exact nomatch h
    -- what follows the first parameter is a comma, if anything
    exact wordsApart_append (first.wordsApart_placed _) hlater.1 hlater.2

/-- The lexemes of a placed parameter list are close. -/
private theorem close_placed (f : ParametersForm) : Close f.placed := by
  cases f with
  | nothing | void => simp [Close, placed]
  | list first later =>
    apply close_append (first.close_placed (.inl rfl))
    intro l hl
    -- behind the first parameter, a lexeme is a comma or belongs to a parameter behind a space
    obtain ⟨p, _, hl⟩ := List.mem_flatMap.mp hl
    rcases List.mem_cons.mp hl with rfl | hl
    · exact .inl rfl
    · exact p.close_placed (.inr rfl) l hl

end ParametersForm

/-! ## The layout on one line -/

namespace DeclarationLayout

/-- A declaration on one line, from its first marker to its semicolon. -/
def plain (d : DeclarationForm) : DeclarationLayout where
  form := d.plain
  placed := ⟨[], .word attributeMarker⟩ :: placedType [' '] d.returnType ++
    ([⟨[' '], .word callMarker⟩, ⟨[' '], .word d.name⟩] ++
      ⟨[], .mark .leftParen⟩ :: (d.parameters.plain.placed ++
        [⟨[], .mark .rightParen⟩, ⟨[], .mark .semicolon⟩]))
  trailing := []

/-- On one line, words are kept apart by single spaces. -/
private theorem wordsApart_plain (d : DeclarationForm) : WordsApart (plain d).placed := by
  have hstart : WordsApart (⟨[], .word attributeMarker⟩ :: placedType [' '] d.returnType) :=
    wordsApart_cons (fun _ => mayFollow_placedType (List.cons_ne_nil _ _) _)
      (wordsApart_placedType _ _)
  have hcall : WordsApart [⟨[' '], .word callMarker⟩, ⟨[' '], .word d.name⟩] :=
    ⟨fun _ _ => List.cons_ne_nil _ _, trivial⟩
  -- behind the name come marks and parameters, and the list ends in marks
  have hend : WordsApart (d.parameters.plain.placed ++
      [⟨[], .mark .rightParen⟩, ⟨[], .mark .semicolon⟩]) := by
    refine wordsApart_append (ParametersForm.wordsApart_placed _) ⟨nofun, trivial⟩ ?_
    rintro m ⟨⟩
    exact nofun
  -- the two seams: the call marker stands behind a space, and the parenthesis is no word
  refine wordsApart_append hstart (wordsApart_append hcall (wordsApart_cons nofun hend) ?_) ?_
  · rintro m ⟨⟩
    exact nofun
  · rintro m ⟨⟩ _
    exact List.cons_ne_nil _ _

/-- On one line, nothing but single spaces stands between lexemes. -/
theorem close_plain (d : DeclarationForm) : Close (plain d).placed := by
  have hend : Close [⟨[], .mark .rightParen⟩, ⟨[], .mark .semicolon⟩] := by simp [Close]
  have hcall : Close [⟨[' '], .word callMarker⟩, ⟨[' '], .word d.name⟩] := by simp [Close]
  have hstart := close_cons (l := ⟨[], .word attributeMarker⟩) (.inl rfl)
    (close_placedType (.inr rfl) d.returnType)
  have hparameters := close_append d.parameters.plain.close_placed hend
  exact close_append hstart (close_append hcall (close_cons (.inl rfl) hparameters))

/-- The layout on one line is allowed. -/
theorem allowed_plain (d : DeclarationForm) : (plain d).Allowed where
  lexemes_eq := by
    simp [plain, DeclarationForm.plain, DeclarationForm.lexemes, map_lexeme_placedType,
      ParametersForm.map_lexeme_placed]
  blank_gaps := (close_plain d).blank
  blank_trailing := rfl
  words_apart := wordsApart_plain d
  markers_together := by
    intro l hl
    -- no gap breaks the line, so none between the markers does
    exact (close_plain d).not_break l (List.mem_of_mem_drop (List.mem_of_mem_take hl))
  terminator_together := by
    simp [plain, List.getLast?_append, List.getLast?_cons]

/-- Its text is the marked declaration. -/
theorem text_plain {d : DeclarationForm} (h : d.InGrammar) (line : Nat) :
    (plain d).text = (d.prototype line).marked.toList ++ ['\n'] := by
  have htype := text_placedType [' '] h.1
  have hparameters := ParametersForm.text_placed h.2.2
  -- both texts are now the same parts, written as lexemes on the left and as literals on the right
  simp only [text, plain, List.flatMap_append, List.flatMap_cons, htype, hparameters,
    Prototype.marked, DeclarationForm.prototype, String.toList_append, toString_string]
  simp [PlacedLexeme.text, Lexeme.word, Lexeme.mark, Token.Kind.mark?]

end DeclarationLayout

end VulkanGen
