import VulkanGen.Proofs.Declaration.Readers
import VulkanGen.Proofs.Token.Lexemes

/-!
# What the reader accepts is the grammar

A declaration is read exactly if its lexemes are those of a form that the grammar
has, and what is read is what the form declares.  Every reader's part of that is an
equivalence of its own, for tokens that are spelled like their kinds, as all tokens
of a text are.

## Key results

- `Declaration.renderType_eq`: the type of tokens is the rendering of its words
- `Declaration.parameter_iff_form`, `Declaration.parametersFrom_iff_form`: parameters
- `Declaration.declaration_iff_form`: whole declarations
- `Prototype.ofSpan_eq_ok_iff`: a span declares what some form of the grammar declares
-/

namespace VulkanGen

/-! ## Types -/

namespace TypeWord

/-- The part of a type that a token is. -/
def ofToken (token : Token) : TypeWord :=
  if token.kind == .star then .star else .word token.text

/-- A part of a type is spelled like its lexeme. -/
theorem spelled_eq (w : TypeWord) : w.spelled = w.lexeme.spelled := by
  cases w with
  | word text => exact (Token.spelled_word text).symm
  | star => rfl

/-- The part of a type that a token is has the lexeme of the token. -/
private theorem lexeme_ofToken {token : Token} (hspelled : token.lexeme.spelled = true)
    (hword : token.isTypeWord = true) : (ofToken token).lexeme = token.lexeme := by
  rw [ofToken]
  split
  · next hstar =>
    rw [beq_iff_eq] at hstar
    -- the only spelling of a star token is the star
    have hmark := (Token.spelled_iff_eq_mark (l := token.lexeme) (c := '*')
      (by simp [Token.lexeme, hstar, Token.Kind.mark?])).mp hspelled
    rw [hmark, lexeme, Token.lexeme, hstar]
  · next hstar =>
    have hkind : token.kind = .identifier := by
      simpa [Token.isTypeWord, hstar] using hword
    simp [lexeme, Lexeme.word, Token.lexeme, hkind]

/-- Tokens that a type can hold are the parts of a type. -/
private theorem map_lexeme_ofToken {tokens : List Token}
    (hspelled : ∀ t ∈ tokens, t.lexeme.spelled = true)
    (hwords : ∀ t ∈ tokens, t.isTypeWord = true) :
    tokens.map Token.lexeme = (tokens.map ofToken).map lexeme := by
  rw [List.map_map]
  exact List.map_congr_left fun t ht => (lexeme_ofToken (hspelled t ht) (hwords t ht)).symm

/-- A token with the lexeme of a part of a type can stand in a type. -/
private theorem isTypeWord_of_lexeme_eq {token : Token} {w : TypeWord}
    (h : token.lexeme = w.lexeme) :
    token.isTypeWord = true := by
  have hkind : token.kind = w.lexeme.kind := congrArg Lexeme.kind h
  cases w <;> simp [Token.isTypeWord, hkind, lexeme, Lexeme.word, Lexeme.mark]

/-- The parts of a type are tokens that a type can hold. -/
private theorem isTypeWord_of_map_lexeme_eq {tokens : List Token} {ws : List TypeWord}
    (h : tokens.map Token.lexeme = ws.map lexeme) : ∀ t ∈ tokens, t.isTypeWord = true := by
  intro t ht
  have hmem : t.lexeme ∈ ws.map lexeme := h ▸ List.mem_map_of_mem ht
  obtain ⟨w, _, hw⟩ := List.mem_map.mp hmem
  exact isTypeWord_of_lexeme_eq hw.symm

/-- Parts of a type with the lexemes of tokens are spelled like these. -/
private theorem spelled_of_map_lexeme_eq {tokens : List Token} {ws : List TypeWord}
    (hspelled : ∀ t ∈ tokens, t.lexeme.spelled = true)
    (h : tokens.map Token.lexeme = ws.map lexeme) : ∀ w ∈ ws, w.spelled = true := by
  intro w hw
  have hmem : w.lexeme ∈ tokens.map Token.lexeme := h ▸ List.mem_map_of_mem hw
  obtain ⟨t, ht, htw⟩ := List.mem_map.mp hmem
  rw [spelled_eq, ← htw]
  exact hspelled t ht

end TypeWord

namespace Declaration

/-- The text of a type with one more token. -/
def typeStep (text : List Char) (token : Token) : List Char :=
  if token.kind == .star then text ++ ['*']
  else if text.isEmpty then token.text.toList
  else text ++ ' ' :: token.text.toList

/-- The text of a type is made token by token. -/
private theorem typeText_eq (tokens : List Token) : typeText tokens = tokens.foldl typeStep
    [] := rfl

/-- Behind a part of a type, words are kept apart by a space, and stars are not. -/
private theorem typeStep_behind {text : List Char} (hne : text ≠ []) {token : Token} {w : TypeWord}
    (h : token.lexeme = w.lexeme) : typeStep text token = text ++ w.behind := by
  have hkind : token.kind = w.lexeme.kind := congrArg Lexeme.kind h
  have htext : token.text = w.lexeme.text := congrArg Lexeme.text h
  have hempty : text.isEmpty = false := by simpa using hne
  cases w <;> simp [typeStep, hkind, htext, hempty, TypeWord.lexeme, TypeWord.behind, Lexeme.word,
    Lexeme.mark]

/-- Behind some text, each token adds the part of the type that it is. -/
private theorem foldl_typeStep {tokens : List Token} {ws : List TypeWord}
    (h : tokens.map Token.lexeme = ws.map TypeWord.lexeme) {text : List Char} (hne : text ≠ []) :
    tokens.foldl typeStep text = text ++ ws.flatMap TypeWord.behind := by
  induction ws generalizing tokens text with
  | nil =>
    rw [List.map_nil, List.map_eq_nil_iff] at h
    rw [h, List.foldl_nil, List.flatMap_nil, List.append_nil]
  | cons w ws ih =>
    obtain ⟨token, later, rfl, htoken, hlater⟩ := List.map_eq_cons_iff.mp h
    rw [List.foldl_cons, typeStep_behind hne htoken, ih hlater (by simp [hne]),
      List.flatMap_cons, List.append_assoc]

/-- The type of tokens is the rendering of its words. -/
theorem renderType_eq {tokens : List Token} {ws : List TypeWord}
    (h : tokens.map Token.lexeme = ws.map TypeWord.lexeme) (hspelled : ∀ w ∈ ws, w.spelled = true) :
    renderType tokens = TypeWord.render ws := by
  rw [renderType, typeText_eq]
  cases ws with
  | nil =>
    rw [List.map_nil, List.map_eq_nil_iff] at h
    rw [h]
    rfl
  | cons w ws =>
    obtain ⟨token, later, rfl, htoken, hlater⟩ := List.map_eq_cons_iff.mp h
    have hkind : token.kind = w.lexeme.kind := congrArg Lexeme.kind htoken
    have htext : token.text = w.lexeme.text := congrArg Lexeme.text htoken
    -- the first word stands alone, and each later one goes behind a text that is not empty
    rw [List.foldl_cons]
    cases w with
    | word text =>
      -- an identifier has a first character
      have hne : text.toList ≠ [] := by
        intro hnil
        have := hspelled (.word text) (by simp)
        simp [TypeWord.spelled, isIdentifier, hnil] at this
      have hstep : typeStep [] token = text.toList := by
        simp [typeStep, hkind, htext, TypeWord.lexeme, Lexeme.word]
      rw [hstep, foldl_typeStep hlater hne, TypeWord.render]
    | star =>
      have hstep : typeStep [] token = ['*'] := by
        simp [typeStep, hkind, TypeWord.lexeme, Lexeme.mark]
      rw [hstep, foldl_typeStep hlater (List.cons_ne_nil _ _), TypeWord.render]
      rfl

/-! ## Parameters -/

/-- A token that is an identifier has the lexeme of a word. -/
private theorem lexeme_eq_word {token : Token} (h : token.kind = .identifier) :
    token.lexeme = .word token.text := by
  rw [Token.lexeme, h, Lexeme.word]

/-- A token that is a mark has the lexeme of the mark. -/
private theorem lexeme_eq_mark {token : Token} {kind : Token.Kind} {c : Char}
    (hspelled : token.lexeme.spelled = true) (h : token.kind = kind) (hc : kind.mark? = some c) :
    token.lexeme = .mark kind := by
  subst h
  exact (Token.spelled_iff_eq_mark (l := token.lexeme) hc).mp hspelled

/-- The lexemes of an extent. -/
def extentLexemes : Option String → List Lexeme
  | none => []
  | some digits => [.mark .leftBracket, .number digits, .mark .rightBracket]

/-- A parameter is its type, its name and its extent. -/
theorem lexemes_parameterForm (f : ParameterForm) :
    f.lexemes = f.type.map TypeWord.lexeme ++ .word f.name :: extentLexemes f.extent := by
  obtain ⟨type, name, extent⟩ := f
  cases extent <;> rfl

/-- Behind the name stands an extent or nothing, and then what follows the parameter. -/
private theorem extentBehind_iff_form {next : Token} {rest behind : List Token}
    (hspelled : ∀ t ∈ behind, t.lexeme.spelled = true) (e : Option Extent) :
    ExtentBehind next rest behind e ↔
      ∃ (digits : Option String) (front : List Token), behind = front ++ next :: rest ∧
        front.map Token.lexeme = extentLexemes digits ∧ (∀ ds ∈ digits, isNumeral ds = true) ∧
        (digits.isSome → e.isSome) ∧
        e = digits.bind fun ds => Extent.ofNat? (Text.decimal ds.toList) := by
  constructor
  · rintro (_ | ⟨opening, size, closing, e, hopening, hsize, hclosing, hextent⟩)
    · exact ⟨none, [], rfl, rfl, by simp, by simp, rfl⟩
    · refine ⟨some size.text, [opening, size, closing], rfl, ?_, ?_, by simp, hextent.symm⟩
      · -- the digits are kept as they are spelled
        have hnumber : size.lexeme = .number size.text := by
          rw [Token.lexeme, hsize, Lexeme.number]
        rw [List.map_cons, List.map_cons, List.map_singleton, hnumber,
          lexeme_eq_mark (hspelled opening (by simp)) hopening rfl,
          lexeme_eq_mark (hspelled closing (by simp)) hclosing rfl]
        rfl
      · rintro ds ⟨⟩
        rw [← Token.spelled_number, Lexeme.number, ← hsize]
        exact hspelled size (by simp)
  · rintro ⟨digits, front, rfl, hfront, _, hsome, he⟩
    -- from the form to the tokens: its lexemes are taken off one by one
    cases digits with
    | none =>
      rw [extentLexemes, List.map_eq_nil_iff] at hfront
      rw [hfront, he]
      exact .absent
    | some ds =>
      obtain ⟨opening, _, rfl, hopening, hlater⟩ := List.map_eq_cons_iff.mp hfront
      obtain ⟨size, _, rfl, hsize, hlater⟩ := List.map_eq_cons_iff.mp hlater
      obtain ⟨closing, _, rfl, hclosing, hlater⟩ := List.map_eq_cons_iff.mp hlater
      obtain rfl := List.map_eq_nil_iff.mp hlater
      obtain ⟨extent, rfl⟩ := Option.isSome_iff_exists.mp (hsome rfl)
      have htext : size.text = ds := congrArg Lexeme.text hsize
      refine .present opening size closing extent (congrArg Lexeme.kind hopening)
        (congrArg Lexeme.kind hsize) (congrArg Lexeme.kind hclosing) ?_
      rw [htext]
      exact he.symm

/-- A parameter is read exactly if some form of the grammar stands there. -/
theorem parameter_iff_form (ordinal : Nat) {tokens rest : List Token} (p : Parameter)
    {next : Token} (hnext : endsParameter next = true)
    (hspelled : ∀ t ∈ tokens, t.lexeme.spelled = true) :
    parameter ordinal tokens = .ok (p, next :: rest) ↔
      ∃ (f : ParameterForm) (front : List Token), tokens = front ++ next :: rest ∧
        front.map Token.lexeme = f.lexemes ∧ f.InGrammar ∧ f.Spelled ∧ f.parameter = p := by
  rw [parameter_eq_ok_iff _ _ _ _ hnext]
  constructor
  · rintro ⟨type, last, behind, rfl, hne, htype, hlast, hbehind, hname, hrender⟩
    simp only [List.forall_mem_append, List.forall_mem_cons] at hspelled
    obtain ⟨digits, front, rfl, hfront, hnumeral, hsome, hextent⟩ :=
      (extentBehind_iff_form hspelled.2.2 _).mp hbehind
    -- the form has the words of the type, the name and the digits of the extent
    have hlexemes := TypeWord.map_lexeme_ofToken hspelled.1 htype
    have hwords := TypeWord.spelled_of_map_lexeme_eq hspelled.1 hlexemes
    refine ⟨⟨type.map TypeWord.ofToken, last.text, digits⟩, type ++ last :: front, by simp, ?_,
      ⟨by simpa using hne, ?_⟩, ⟨hwords, ?_, hnumeral⟩, ?_⟩
    · rw [lexemes_parameterForm, List.map_append, List.map_cons, hlexemes, hfront,
        lexeme_eq_word hlast]
    · simpa only [ParameterForm.size?, ← hextent] using hsome
    · rw [← Token.spelled_word, ← lexeme_eq_word hlast]
      exact hspelled.2.1
    · obtain ⟨name, rendered, extent⟩ := p
      simp only [ParameterForm.parameter, ParameterForm.size?, Parameter.mk.injEq]
      exact ⟨hname.symm, by rw [← renderType_eq hlexemes hwords, ← hrender], hextent.symm⟩
  · -- from the form to the tokens: they split like its lexemes
    rintro ⟨f, front, rfl, hfront, hgrammar, hform, rfl⟩
    rw [lexemes_parameterForm] at hfront
    obtain ⟨type, _, rfl, htype, hlater⟩ := List.map_eq_append_iff.mp hfront
    obtain ⟨last, behind, rfl, hlast, hbehind⟩ := List.map_eq_cons_iff.mp hlater
    simp only [List.forall_mem_append, List.forall_mem_cons] at hspelled
    refine ⟨type, last, behind ++ next :: rest, by simp, ?_,
      TypeWord.isTypeWord_of_map_lexeme_eq htype, congrArg Lexeme.kind hlast, ?_,
      (congrArg Lexeme.text hlast).symm, (renderType_eq htype hform.1).symm⟩
    · -- a parameter without a type is not in the grammar
      rintro rfl
      exact hgrammar.1 (List.map_eq_nil_iff.mp htype.symm)
    · refine (extentBehind_iff_form ?_ _).mpr ⟨f.extent, behind, rfl, hbehind, ?_, hgrammar.2, rfl⟩
      · simpa only [List.forall_mem_append, List.forall_mem_cons] using
          ⟨hspelled.1.2.2, hspelled.2⟩
      · exact hform.2.2

/-- A list of two parameters or more is the first one, a comma and the list of the others. -/
theorem lexemes_list_cons (first second : ParameterForm) (later : List ParameterForm) :
    (ParametersForm.list first (second :: later)).lexemes =
      first.lexemes ++ .mark .comma :: (ParametersForm.list second later).lexemes := by
  simp [ParametersForm.lexemes]

/-- A list of parameters is read exactly if forms of the grammar stand there, with
commas between them. -/
theorem parametersFrom_iff_form (ordinal : Nat) {tokens after : List Token} (ps : List Parameter)
    {closing : Token} (hclosing : closing.kind = .rightParen)
    (hspelled : ∀ t ∈ tokens, t.lexeme.spelled = true) :
    parametersFrom ordinal tokens = .ok (ps, closing :: after) ↔
      ∃ (first : ParameterForm) (later : List ParameterForm) (front : List Token),
        tokens = front ++ closing :: after ∧
        front.map Token.lexeme = (ParametersForm.list first later).lexemes ∧
        (∀ f ∈ first :: later, f.InGrammar ∧ f.Spelled) ∧
        (first :: later).map (·.parameter) = ps := by
  have hend : endsParameter closing = true := by simp [endsParameter, hclosing]
  -- on the parameters read, as each step of the reader gives one; its position and the tokens
  -- change
  induction ps generalizing ordinal tokens with
  | nil =>
    rw [parametersFrom_eq_ok_iff _ _ _ _ hclosing]
    simp
  | cons p ps ih =>
    -- one parameter and the end, or one parameter, a comma and more of them
    rw [parametersFrom_eq_ok_iff _ _ _ _ hclosing]
    constructor
    · rintro (⟨q, hq, hps⟩ | ⟨q, comma, rest, qs, hq, hcomma, hqs, hps⟩)
      · -- the last parameter
        obtain ⟨rfl, rfl⟩ := List.cons.inj hps
        obtain ⟨f, front, rfl, hfront, hgrammar, hform, hparameter⟩ :=
          (parameter_iff_form _ _ hend hspelled).mp hq
        refine ⟨f, [], front, rfl, ?_, by simpa using ⟨hgrammar, hform⟩, by simpa using hparameter⟩
        rw [hfront, ParametersForm.lexemes, List.flatMap_nil, List.append_nil]
      · -- a parameter and a comma, with the forms of the others from the induction
        obtain ⟨rfl, rfl⟩ := List.cons.inj hps
        obtain ⟨f, front, rfl, hfront, hgrammar, hform, hparameter⟩ :=
          (parameter_iff_form _ _ (by simp [endsParameter, hcomma]) hspelled).mp hq
        simp only [List.forall_mem_append, List.forall_mem_cons] at hspelled
        obtain ⟨second, later, back, rfl, hback, hall, hlater⟩ :=
          (ih _ hspelled.2.2).mp hqs
        refine ⟨f, second :: later, front ++ comma :: back, by simp, ?_,
          List.forall_mem_cons.mpr ⟨⟨hgrammar, hform⟩, hall⟩,
          by rw [List.map_cons, hparameter, hlater]⟩
        rw [lexemes_list_cons, List.map_append, List.map_cons, hfront, hback,
          lexeme_eq_mark hspelled.2.1 hcomma rfl]
    · rintro ⟨first, later, front, rfl, hfront, hall, hps⟩
      rw [List.map_cons] at hps
      obtain ⟨hfirst, hps⟩ := List.cons.inj hps
      -- the form says by itself which of the two ways the reader takes
      cases later with
      | nil =>
        left
        rw [ParametersForm.lexemes, List.flatMap_nil, List.append_nil] at hfront
        refine ⟨p, ?_, by rw [← hps]; rfl⟩
        exact (parameter_iff_form _ _ hend hspelled).mpr
          ⟨first, front, rfl, hfront, (hall first (by simp)).1, (hall first (by simp)).2, hfirst⟩
      | cons second later =>
        right
        rw [lexemes_list_cons] at hfront
        obtain ⟨front, _, rfl, hfrontLexemes, hback⟩ := List.map_eq_append_iff.mp hfront
        obtain ⟨comma, back, rfl, hcomma, hback⟩ := List.map_eq_cons_iff.mp hback
        have hkind : comma.kind = .comma := congrArg Lexeme.kind hcomma
        rw [List.append_assoc, List.cons_append] at hspelled ⊢
        refine ⟨p, comma, back ++ closing :: after, ps, ?_, hkind, ?_, rfl⟩
        · exact (parameter_iff_form _ _ (by simp [endsParameter, hkind]) hspelled).mpr
            ⟨first, front, rfl, hfrontLexemes, (hall first (by simp)).1,
              (hall first (by simp)).2, hfirst⟩
        · simp only [List.forall_mem_append, List.forall_mem_cons] at hspelled
          refine (ih _ ?_).mpr ⟨second, later, back, rfl, hback,
            fun f hf => hall f (List.mem_cons_of_mem _ hf), hps⟩
          simpa only [List.forall_mem_append, List.forall_mem_cons] using hspelled.2.2

/-- What is read between the parentheses is what stands there by the grammar. -/
private theorem parameters_iff_form {tokens after : List Token} (ps : ParameterList)
    {closing : Token} (hclosing : closing.kind = .rightParen)
    (hspelled : ∀ t ∈ tokens, t.lexeme.spelled = true) :
    parameters tokens = .ok (ps, closing :: after) ↔
      ∃ (f : ParametersForm) (front : List Token), tokens = front ++ closing :: after ∧
        front.map Token.lexeme = f.lexemes ∧ (∀ p ∈ f.toList, p.InGrammar ∧ p.Spelled) ∧
        f.toList.map (·.parameter) = ps.toList := by
  obtain ⟨ps⟩ := ps
  rw [parameters_eq_ok_iff _ _ _ hclosing, parametersFrom_iff_form _ _ hclosing hspelled]
  constructor
  · rintro (⟨rfl, hps⟩ | ⟨void, rfl, _, htext, hps⟩ | ⟨first, later, front, rfl, hfront, hall, hps⟩)
    · exact ⟨.nothing, [], rfl, rfl, by simp [ParametersForm.toList],
        (congrArg ParameterList.toList hps).symm⟩
    · refine ⟨.void, [void], rfl, ?_, by simp [ParametersForm.toList],
        (congrArg ParameterList.toList hps).symm⟩
      -- a token with this text is a word
      obtain ⟨c, cs, hlist, hkind, _⟩ :=
        (Token.spelled_iff void.lexeme).mp (hspelled void List.mem_cons_self)
      have hvoid : "void".toList = ['v', 'o', 'i', 'd'] := rfl
      -- its first character is that of the text, and decides the kind
      have hc : c = 'v' := by
        rw [Token.lexeme, htext, hvoid] at hlist
        exact (List.cons.inj hlist).1.symm
      rw [hc] at hkind
      rw [List.map_singleton, lexeme_eq_word (Option.some.inj hkind).symm, htext]
      rfl
    · exact ⟨.list first later, front, rfl, hfront, hall, hps⟩
  · rintro ⟨f, front, rfl, hfront, hall, hps⟩
    dsimp only at hps
    -- each form of a list is one of the three cases of the reader
    cases f with
    | nothing =>
      left
      rw [List.map_eq_nil_iff.mp hfront, ← hps]
      exact ⟨rfl, rfl⟩
    | void =>
      right; left
      obtain ⟨void, _, rfl, hvoid, hlater⟩ := List.map_eq_cons_iff.mp hfront
      obtain rfl := List.map_eq_nil_iff.mp hlater
      have hkind : void.kind = .identifier := congrArg Lexeme.kind hvoid
      exact ⟨void, rfl, by simp [hkind], congrArg Lexeme.text hvoid, by rw [← hps]; rfl⟩
    | list first later =>
      right; right
      exact ⟨first, later, front, rfl, hfront, hall, hps⟩

/-! ## Declarations -/

/-- A token belongs to the return type if a type can hold it and it is not the second marker. -/
private theorem inReturnType_iff (token : Token) :
    inReturnType token = true ↔ token.isTypeWord = true ∧ token.lexeme ≠ .word callMarker := by
  simp only [inReturnType, Bool.and_eq_true, Bool.not_eq_true', ← Bool.not_eq_true, isWord_iff,
    ne_eq]

/-- A part of a type is a word exactly if its lexeme is. -/
theorem lexeme_eq_word_iff (w : TypeWord) (text : String) :
    w.lexeme = .word text ↔ w = .word text := by
  cases w <;> simp [TypeWord.lexeme, Lexeme.word, Lexeme.mark]

/-- The tokens of a type belong to a return type if none is the second marker. -/
private theorem inReturnType_iff_not_mem {words : List Token} {ws : List TypeWord}
    (h : words.map Token.lexeme = ws.map TypeWord.lexeme) :
    (∀ w ∈ words, inReturnType w = true) ↔ .word callMarker ∉ ws := by
  have htype := TypeWord.isTypeWord_of_map_lexeme_eq h
  have hmem : Lexeme.word callMarker ∈ words.map Token.lexeme ↔ .word callMarker ∈ ws := by
    simp only [h, List.mem_map, lexeme_eq_word_iff, exists_eq_right]
  rw [← hmem, List.mem_map]
  constructor
  · rintro hwords ⟨w, hw, hmarker⟩
    exact ((inReturnType_iff w).mp (hwords w hw)).2 hmarker
  · exact fun hno w hw => (inReturnType_iff w).mpr ⟨htype w hw, fun hmarker => hno ⟨w, hw, hmarker⟩⟩

/-- The words of a return type are those of a type that the grammar allows there. -/
private theorem returnWords_iff_form {words : List Token}
    (hspelled : ∀ t ∈ words, t.lexeme.spelled = true) :
    (words ≠ [] ∧ ∀ w ∈ words, inReturnType w = true) ↔
      ∃ ws : List TypeWord, words.map Token.lexeme = ws.map TypeWord.lexeme ∧ ws ≠ [] ∧
        .word callMarker ∉ ws ∧ ∀ w ∈ ws, w.spelled = true := by
  constructor
  · rintro ⟨hne, hwords⟩
    -- the parts of the type are those that the tokens are
    have htype : ∀ w ∈ words, w.isTypeWord = true := fun w hw =>
      ((inReturnType_iff w).mp (hwords w hw)).1
    have hlexemes := TypeWord.map_lexeme_ofToken hspelled htype
    exact ⟨words.map TypeWord.ofToken, hlexemes, by simpa using hne,
      (inReturnType_iff_not_mem hlexemes).mp hwords,
      TypeWord.spelled_of_map_lexeme_eq hspelled hlexemes⟩
  · rintro ⟨ws, hlexemes, hne, hmarker, _⟩
    refine ⟨?_, (inReturnType_iff_not_mem hlexemes).mpr hmarker⟩
    rintro rfl
    exact hne (List.map_eq_nil_iff.mp hlexemes.symm)

/-- What is read as a declaration is a form of the grammar. -/
private theorem form_of_declaration {line : Nat} {tokens : List Token} {p : Prototype}
    (hspelled : ∀ t ∈ tokens, t.lexeme.spelled = true) (h : declaration line tokens = .ok p) :
    ∃ d : DeclarationForm, d.InGrammar ∧ d.Spelled ∧ tokens.map Token.lexeme = d.lexemes ∧
      d.prototype line = p := by
  obtain ⟨start, words, call, name, opening, inner, closing, semicolon, rfl, hstart, hne, hwords,
    hcall, hname, hopening, hlist, hclosing, hsemicolon, hpname, hptype, hpline⟩ :=
    (declaration_eq_ok_iff _ _ _).mp h
  -- every part is spelled like its kind, which makes marks what their kinds say
  simp only [List.forall_mem_append, List.forall_mem_cons] at hspelled
  obtain ⟨hsstart, hswords, hscall, hsname, hsopening, hsinner⟩ := hspelled
  obtain ⟨f, front, rfl, hfront, hall, hps⟩ := (parameters_iff_form _ hclosing hsinner).mp hlist
  simp only [List.forall_mem_append, List.forall_mem_cons] at hsinner
  -- the form has the parts of the return type, the name and the form of the list
  obtain ⟨ws, hlexemes, hwsNe, hmarker, hwsSpelled⟩ :=
    (returnWords_iff_form hswords).mp ⟨hne, hwords⟩
  refine ⟨⟨ws, name.text, f⟩, ⟨hwsNe, hmarker, fun p hp => (hall p hp).1⟩,
    ⟨hwsSpelled, ?_, fun p hp => (hall p hp).2⟩, ?_, ?_⟩
  · -- the name is a word
    rw [← Token.spelled_word, ← lexeme_eq_word hname]
    exact hsname
  · -- the lexemes of the form are those of the tokens, part by part
    simp only [List.map_cons, List.map_append, DeclarationForm.lexemes, hlexemes, hfront,
      (isWord_iff _ _).mp hstart, (isWord_iff _ _).mp hcall, lexeme_eq_word hname,
      lexeme_eq_mark hsopening hopening rfl, lexeme_eq_mark hsinner.2.1 hclosing rfl,
      lexeme_eq_mark hsinner.2.2.1 hsemicolon rfl, List.map_nil]
    simp
  · -- it declares what was read, with the return type as it is rendered
    obtain ⟨pname, ptype, ⟨plist⟩, pline⟩ := p
    simp only [DeclarationForm.prototype, Prototype.mk.injEq, ParameterList.mk.injEq]
    have hrender := renderType_eq hlexemes hwsSpelled
    exact ⟨hpname.symm, hrender.symm.trans hptype.symm, hps, hpline.symm⟩

/-- The tokens of a form of the grammar are read as what it declares. -/
private theorem declaration_of_form (line : Nat) {tokens : List Token} {d : DeclarationForm}
    (hgrammar : d.InGrammar) (hform : d.Spelled)
    (hspelled : ∀ t ∈ tokens, t.lexeme.spelled = true)
    (htokens : tokens.map Token.lexeme = d.lexemes) :
    declaration line tokens = .ok (d.prototype line) := by
  rw [declaration_eq_ok_iff]
  -- the tokens are cut where the lexemes of the form are
  simp only [DeclarationForm.lexemes, List.cons_append, List.append_assoc] at htokens
  obtain ⟨start, _, rfl, hstart, htokens⟩ := List.map_eq_cons_iff.mp htokens
  obtain ⟨words, _, rfl, hwords, htokens⟩ := List.map_eq_append_iff.mp htokens
  obtain ⟨call, _, rfl, hcall, htokens⟩ := List.map_eq_cons_iff.mp htokens
  obtain ⟨name, _, rfl, hname, htokens⟩ := List.map_eq_cons_iff.mp htokens
  obtain ⟨opening, inner, rfl, hopening, htokens⟩ := List.map_eq_cons_iff.mp htokens
  obtain ⟨front, _, rfl, hfront, htokens⟩ := List.map_eq_append_iff.mp htokens
  obtain ⟨closing, _, rfl, hclosing, htokens⟩ := List.map_eq_cons_iff.mp htokens
  obtain ⟨semicolon, _, rfl, hsemicolon, htokens⟩ := List.map_eq_cons_iff.mp htokens
  obtain rfl := List.map_eq_nil_iff.mp htokens
  simp only [List.forall_mem_append, List.forall_mem_cons] at hspelled
  obtain ⟨hsstart, hswords, hscall, hsname, hsopening, hsfront, hsend⟩ := hspelled
  -- what a token is follows from its lexeme
  have hclosingKind : closing.kind = .rightParen := congrArg Lexeme.kind hclosing
  obtain ⟨hne, hreturn⟩ := (returnWords_iff_form hswords).mpr
    ⟨d.returnType, hwords, hgrammar.1, hgrammar.2.1, hform.1⟩
  refine ⟨start, words, call, name, opening, _, closing, semicolon, rfl,
    (isWord_iff _ _).mpr hstart, hne, hreturn, (isWord_iff _ _).mpr hcall,
    congrArg Lexeme.kind hname, congrArg Lexeme.kind hopening, ?_, hclosingKind,
    congrArg Lexeme.kind hsemicolon, (congrArg Lexeme.text hname).symm,
    (renderType_eq hwords hform.1).symm, rfl⟩
  -- the reader between the parentheses stops at the closing one of the form
  refine (parameters_iff_form _ hclosingKind ?_).mpr ⟨d.parameters, front, rfl, hfront,
    fun p hp => ⟨hgrammar.2.2 p hp, hform.2.2 p hp⟩, rfl⟩
  simpa only [List.forall_mem_append, List.forall_mem_cons] using ⟨hsfront, hsend⟩

/-- A declaration is read exactly if it is a form of the grammar, token by token. -/
theorem declaration_iff_form (line : Nat) {tokens : List Token} (p : Prototype)
    (hspelled : ∀ t ∈ tokens, t.lexeme.spelled = true) :
    declaration line tokens = .ok p ↔
      ∃ d : DeclarationForm, d.InGrammar ∧ d.Spelled ∧ tokens.map Token.lexeme = d.lexemes ∧
        d.prototype line = p := by
  constructor
  · exact form_of_declaration hspelled
  · rintro ⟨d, hgrammar, hform, htokens, rfl⟩
    exact declaration_of_form line hgrammar hform hspelled htokens

end Declaration

/-- A span declares exactly what a form of the grammar with its lexemes declares. -/
theorem Prototype.ofSpan_eq_ok_iff (span : Span) (p : Prototype) :
    ofSpan span = .ok p ↔
      ∃ d : DeclarationForm, d.InGrammar ∧ d.Spelled ∧
        Token.lexemes? span.text.toList = some d.lexemes ∧ d.prototype span.line = p := by
  have hspelled : ∀ {tokens : List Token}, Token.tokenize span.text = .ok tokens →
      ∀ t ∈ tokens, t.lexeme.spelled = true := fun htokens t ht =>
    Token.spelled_of_lexemes? (Token.lexemes?_of_tokenize htokens) _ (List.mem_map_of_mem ht)
  -- what is left of the reader is the parser of tokens, which `declaration_iff_form` is about
  rw [ofSpan]
  constructor
  · intro h
    split at h
    · split at h
      · exact nomatch h
      · next tokens htokens =>
        obtain ⟨d, hgrammar, hform, hlexemes, hd⟩ :=
          (Declaration.declaration_iff_form _ _ (hspelled htokens)).mp h
        exact ⟨d, hgrammar, hform, by rw [Token.lexemes?_of_tokenize htokens, hlexemes], hd⟩
    · exact nomatch h
  · rintro ⟨d, hgrammar, hform, hlexemes, hd⟩
    obtain ⟨tokens, htokens, htokensLexemes⟩ := Token.tokenize_of_lexemes? hlexemes
    -- the opening parenthesis is one of the lexemes
    have hparen : '(' ∈ span.text.toList :=
      (Token.infix_of_mem_lexemes? hlexemes (l := .mark .leftParen)
        (by simp [DeclarationForm.lexemes])).subset (by simp [Lexeme.mark, Token.Kind.mark?])
    rw [if_pos (List.contains_iff_mem.mpr hparen), htokens]
    exact (Declaration.declaration_iff_form _ _ (hspelled htokens)).mpr
      ⟨d, hgrammar, hform, htokensLexemes, hd⟩

end VulkanGen
