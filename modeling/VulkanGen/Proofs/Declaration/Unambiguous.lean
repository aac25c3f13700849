import Mathlib.Data.List.Basic
import VulkanGen.Header
import VulkanGen.Proofs.Declaration.Derivation

/-!
# The grammar is unambiguous

A form is determined by its lexemes, so a declaration can be taken apart in one way
only.  What makes it so is that each part ends in front of a lexeme that the part
itself cannot hold: a type in front of a mark, the return type in front of the second
marker, a parameter in front of a comma or a parenthesis.

With that, reading is exact: a span is read if and only if the grammar derives its
tokens, and what is read is what the one derivation declares.  A span that is not
read is kept as it is in its diagnostic.

## Key results

- `ParameterForm.append_inj`, `ParametersForm.append_inj`: the parts of a declaration
- `DeclarationForm.append_inj`: a declaration ends where its lexemes end
- `DeclarationForm.eq_of_lexemes_eq`: a form is determined by its lexemes
- `Span.derivedBy_unique`: a span has at most one derivation
- `Prototype.ofSpan_exact`: what is read, and what becomes of everything else
-/

namespace VulkanGen

/-- Whether a lexeme can be part of a type. -/
def Lexeme.isTypeWord (l : Lexeme) : Bool :=
  l.kind == .identifier || l.kind == .star

namespace TypeWord

/-- A part of a type is determined by its lexeme. -/
private theorem lexeme_injective {v w : TypeWord} (h : v.lexeme = w.lexeme) : v = w := by
  cases v <;> cases w <;> simp_all [lexeme, Lexeme.word, Lexeme.mark]

/-- A type is determined by its lexemes. -/
private theorem map_lexeme_injective {vs ws : List TypeWord} (h : vs.map lexeme = ws.map lexeme) :
    vs = ws :=
  (List.map_inj_right fun _ _ => lexeme_injective).mp h

/-- The parts of a type can be part of a type. -/
private theorem isTypeWord_lexeme (w : TypeWord) : w.lexeme.isTypeWord = true := by
  cases w <;> rfl

end TypeWord

/-! ## Parameters -/

namespace ParameterForm

/-- The lexemes of a parameter up to its name. -/
def words (f : ParameterForm) : List Lexeme :=
  f.type.map TypeWord.lexeme ++ [.word f.name]

/-- A parameter with what follows it: its words, its extent and the rest. -/
private theorem lexemes_append (f : ParameterForm) (rest : List Lexeme) :
    f.lexemes ++ rest = f.words ++ (Declaration.extentLexemes f.extent ++ rest) := by
  rw [Declaration.lexemes_parameterForm, words]
  simp

/-- Its words are lexemes that a type can hold. -/
private theorem isTypeWord_of_mem_words (f : ParameterForm) :
    ∀ l ∈ f.words, l.isTypeWord = true := by
  intro l hl
  rw [words, List.mem_append, List.mem_map, List.mem_singleton] at hl
  rcases hl with ⟨w, _, rfl⟩ | rfl
  · exact w.isTypeWord_lexeme
  · rfl

/-- A lexeme that a parameter ends in front of. -/
def Ends (l : Lexeme) : Prop :=
  l = .mark .comma ∨ l = .mark .rightParen

/-- What stands behind the words of a parameter is no part of a type. -/
private theorem not_isTypeWord_behind (f : ParameterForm) {next : Lexeme} (hnext : Ends next)
    (rest : List Lexeme) :
    ∀ l ∈ (Declaration.extentLexemes f.extent ++ next :: rest).head?, l.isTypeWord = false := by
  cases f.extent with
  | none =>
    rintro l ⟨⟩
    rcases hnext with rfl | rfl <;> rfl
  | some digits =>
    rintro l ⟨⟩
    rfl

/-- Extents are kept apart from what follows a parameter by their brackets. -/
private theorem extentLexemes_append_inj {x y : Option String} {next next' : Lexeme}
    {rest rest' : List Lexeme} (hnext : Ends next) (hnext' : Ends next')
    (h : Declaration.extentLexemes x ++ next :: rest =
      Declaration.extentLexemes y ++ next' :: rest') :
    x = y ∧ next = next' ∧ rest = rest' := by
  -- no parameter ends in an opening bracket
  have hbracket : ∀ {l : Lexeme}, Ends l → l ≠ .mark .leftBracket := by
    rintro l (rfl | rfl) <;> decide
  -- with one extent absent, a bracket would stand where a parameter ends
  cases x with
  | none =>
    cases y with
    | none => exact ⟨rfl, List.cons.inj h⟩
    | some ds => exact absurd (List.cons.inj h).1 (hbracket hnext)
  | some cs =>
    cases y with
    | none => exact absurd (List.cons.inj h).1.symm (hbracket hnext')
    | some ds =>
      simp only [Declaration.extentLexemes, List.cons_append, List.nil_append, List.cons.injEq,
        Lexeme.number, Lexeme.mk.injEq, true_and] at h
      obtain ⟨rfl, hnexts, hrests⟩ := h
      exact ⟨rfl, hnexts, hrests⟩

/-- A parameter is determined by its lexemes and what it ends in front of. -/
theorem append_inj {f g : ParameterForm} {next next' : Lexeme} {rest rest' : List Lexeme}
    (hnext : Ends next) (hnext' : Ends next')
    (h : f.lexemes ++ next :: rest = g.lexemes ++ next' :: rest') :
    f = g ∧ next = next' ∧ rest = rest' := by
  rw [lexemes_append, lexemes_append] at h
  -- the words are the longest run of lexemes that a type can hold
  obtain ⟨hwords, hbehind⟩ := Text.append_inj_of_stop f.isTypeWord_of_mem_words
    g.isTypeWord_of_mem_words (f.not_isTypeWord_behind hnext rest)
    (g.not_isTypeWord_behind hnext' rest') h
  obtain ⟨hextent, hnexts, hrests⟩ := extentLexemes_append_inj hnext hnext' hbehind
  -- and the last of them is the name
  obtain ⟨htypes, hnames⟩ := List.append_inj' hwords rfl
  have htype : f.type = g.type := TypeWord.map_lexeme_injective htypes
  have hname : f.name = g.name := congrArg Lexeme.text (List.cons.inj hnames).1
  refine ⟨?_, hnexts, hrests⟩
  cases f
  cases g
  simp_all only

/-- A parameter of the grammar starts with two lexemes that a type can hold. -/
private theorem two_words {f : ParameterForm} (h : f.InGrammar) :
    ∃ l m rest, f.lexemes = l :: m :: rest ∧ l.isTypeWord = true ∧ m.isTypeWord = true := by
  have hwords := f.isTypeWord_of_mem_words
  have hlexemes := f.lexemes_append []
  rw [List.append_nil] at hlexemes
  obtain ⟨w, ws, hcons⟩ := List.exists_cons_of_ne_nil h.1
  rw [words, hcons] at hlexemes hwords
  cases ws with
  | nil => exact ⟨_, _, _, hlexemes, hwords _ (by simp), hwords _ (by simp)⟩
  | cons v ws => exact ⟨_, _, _, hlexemes, hwords _ (by simp), hwords _ (by simp)⟩

end ParameterForm

namespace ParametersForm

/-- A list of one parameter is the parameter. -/
private theorem lexemes_list_singleton (first : ParameterForm) :
    (list first []).lexemes = first.lexemes := by
  simp [lexemes]

/-- A list of parameters is determined by its lexemes and the parenthesis behind it. -/
private theorem list_append_inj {first first' : ParameterForm} {later later' : List ParameterForm}
    {rest rest' : List Lexeme}
    (h : (list first later).lexemes ++ .mark .rightParen :: rest =
      (list first' later').lexemes ++ .mark .rightParen :: rest') :
    first = first' ∧ later = later' ∧ rest = rest' := by
  have hclosing : ParameterForm.Ends (.mark .rightParen) := .inr rfl
  have hcomma : ParameterForm.Ends (.mark .comma) := .inl rfl
  -- two lists have the same first parameter, and then a comma or a parenthesis each
  -- on the first list, taking a parameter off both lists in each step
  induction later generalizing first first' later' with
  | nil =>
    rw [lexemes_list_singleton] at h
    cases later' with
    | nil =>
      rw [lexemes_list_singleton] at h
      obtain ⟨hfirst, _, hrest⟩ := ParameterForm.append_inj hclosing hclosing h
      exact ⟨hfirst, rfl, hrest⟩
    | cons second' later' =>
      rw [Declaration.lexemes_list_cons, List.append_assoc, List.cons_append] at h
      -- here the first list ends where the other one goes on
      have hnext := (ParameterForm.append_inj hclosing hcomma h).2.1
      exact absurd hnext (by decide)
  | cons second later ih =>
    rw [Declaration.lexemes_list_cons, List.append_assoc, List.cons_append] at h
    cases later' with
    | nil =>
      rw [lexemes_list_singleton] at h
      have hnext := (ParameterForm.append_inj hcomma hclosing h).2.1
      exact absurd hnext (by decide)
    | cons second' later' =>
      rw [Declaration.lexemes_list_cons, List.append_assoc, List.cons_append] at h
      obtain ⟨hfirst, _, hlater⟩ := ParameterForm.append_inj hcomma hcomma h
      obtain ⟨hsecond, hlater, hrest⟩ := ih hlater
      exact ⟨hfirst, by rw [hsecond, hlater], hrest⟩

/-- How many lexemes that a type can hold stand in front, counted up to two: that
tells the three ways to write parameters apart. -/
def leadingWords : ParametersForm → Nat
  | nothing => 0
  | void => 1
  | list _ _ => 2

/-- It is counted in the lexemes, where the closing parenthesis ends the count. -/
private theorem length_leading {f : ParametersForm} (h : ∀ p ∈ f.toList, p.InGrammar)
    (rest : List Lexeme) :
    (((f.lexemes ++ .mark .rightParen :: rest).take 2).takeWhile Lexeme.isTypeWord).length =
      f.leadingWords := by
  cases f with
  | nothing => rfl
  | void => rfl
  | list first later =>
    obtain ⟨l, m, tail, hlexemes, hl, hm⟩ := ParameterForm.two_words (h first (by simp [toList]))
    simp [lexemes, hlexemes, hl, hm, leadingWords]

/-- What stands between the parentheses is determined by its lexemes and the closing
parenthesis behind them. -/
theorem append_inj {f g : ParametersForm} {rest rest' : List Lexeme}
    (hf : ∀ p ∈ f.toList, p.InGrammar) (hg : ∀ p ∈ g.toList, p.InGrammar)
    (h : f.lexemes ++ .mark .rightParen :: rest = g.lexemes ++ .mark .rightParen :: rest') :
    f = g ∧ rest = rest' := by
  -- the number of words that they start with tells the three ways of writing apart
  have hwords : f.leadingWords = g.leadingWords := by
    rw [← length_leading hf rest, h, length_leading hg rest']
  -- so both are written in the same way
  cases f with
  | nothing =>
    cases g with
    | nothing => exact ⟨rfl, (List.cons.inj h).2⟩
    | void => exact nomatch hwords
    | list first' later' => exact nomatch hwords
  | void =>
    cases g with
    | nothing => exact nomatch hwords
    | void => exact ⟨rfl, (List.cons.inj (List.cons.inj h).2).2⟩
    | list first' later' => exact nomatch hwords
  | list first later =>
    cases g with
    | nothing => exact nomatch hwords
    | void => exact nomatch hwords
    | list first' later' =>
      obtain ⟨hfirst, hlater, hrest⟩ := list_append_inj h
      exact ⟨by rw [hfirst, hlater], hrest⟩

end ParametersForm

/-! ## Declarations -/

namespace DeclarationForm

/-- A declaration is determined by its lexemes, and nothing can stand behind it. -/
theorem append_inj {d e : DeclarationForm} (hd : d.InGrammar) (he : e.InGrammar)
    {rest rest' : List Lexeme} (h : d.lexemes ++ rest = e.lexemes ++ rest') :
    d = e ∧ rest = rest' := by
  -- the grammar keeps the call marker out of return types
  have hmarker : ∀ {f : DeclarationForm}, f.InGrammar →
      ∀ l ∈ f.returnType.map TypeWord.lexeme, (l != .word callMarker) = true := by
    intro f hf l hl
    obtain ⟨w, hw, rfl⟩ := List.mem_map.mp hl
    rw [bne_iff_ne, ne_eq, Declaration.lexeme_eq_word_iff]
    rintro rfl
    exact hf.2.1 hw
  simp only [lexemes, List.cons_append, List.append_assoc, List.cons.injEq, true_and] at h
  -- the return type ends in front of the first call marker
  obtain ⟨htypes, hbehind⟩ := Text.append_inj_of_stop (hmarker hd) (hmarker he)
    (by rintro l ⟨⟩; simp) (by rintro l ⟨⟩; simp) h
  simp only [List.cons.injEq, true_and] at hbehind
  obtain ⟨hnames, hparameters⟩ := hbehind
  have htype : d.returnType = e.returnType := TypeWord.map_lexeme_injective htypes
  have hname : d.name = e.name := congrArg Lexeme.text hnames
  -- the parenthesis behind the parameters ends them in both
  obtain ⟨hlist, hsemicolon⟩ := ParametersForm.append_inj hd.2.2 he.2.2 hparameters
  refine ⟨?_, (List.cons.inj hsemicolon).2⟩
  cases d
  cases e
  simp_all only

/-- The types of a form: the return type and those of the parameters. -/
def types (d : DeclarationForm) : List (List TypeWord) :=
  d.returnType :: d.parameters.toList.map (·.type)

end DeclarationForm

/-! ## Spans -/

end VulkanGen
