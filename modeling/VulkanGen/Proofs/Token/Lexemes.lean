import VulkanGen.Declaration.Layout
import VulkanGen.Proofs.Text.Lines

/-!
# The lexemes of a text

Tokens carry the offsets at which they start, and a declaration is read no matter
where its tokens stand.  This file leaves the offsets out: the lexemes of a text
depend on its words and marks only, so blanks may be added, taken away at the ends
or exchanged for others without changing them.

## Key results

- `Token.scan_induction`: induction along the tokens of a text
- `Token.lexemes?_append_blank`: a blank separates a text into two
- `Token.lexemes?_placed`: the lexemes of a layout are the ones it places
- `Token.lexemes?_joined_lines`: lines joined by spaces keep the lexemes of the text
- `Token.spelled_of_lexemes?`: every lexeme of a text is spelled like its kind
-/

namespace VulkanGen

/-- Whether a lexeme is one token of its kind: its first character starts the kind,
and the kind goes on with all others. -/
def Lexeme.spelled (l : Lexeme) : Bool :=
  match l.text.toList with
  | [] => false
  | c :: cs => Token.Kind.ofFirst? c == some l.kind && cs.all l.kind.goesOn

namespace Token

/-! ## Scanning without offsets -/

/-- The lexemes of a text, if it splits into tokens. -/
def lexemes? (cs : List Char) : Option (List Lexeme) :=
  (tokensFrom 0 cs).toOption.map (·.map lexeme)

/-- Induction along the tokens of a text: blanks are passed over, a token takes
every character that it goes on with, and a stray character ends the scan. -/
@[elab_as_elim]
theorem scan_induction {motive : List Char → Prop} (nil : motive [])
    (blank : ∀ c cs, Text.isBlank c = true → motive cs → motive (c :: cs))
    (stray : ∀ c cs, Text.isBlank c = false → Kind.ofFirst? c = none → motive (c :: cs))
    (token : ∀ c cs kind, Text.isBlank c = false → Kind.ofFirst? c = some kind →
      motive (cs.dropWhile kind.goesOn) → motive (c :: cs))
    (cs : List Char) : motive cs := by
  -- a token may take any number of characters, so the induction is on the length
  induction h : cs.length using Nat.strongRecOn generalizing cs with
  | ind n ih =>
    subst h
    cases cs with
    | nil => exact nil
    | cons c cs =>
      cases hb : Text.isBlank c with
      | true => exact blank c cs hb (ih cs.length (by simp) cs rfl)
      | false =>
        cases hk : Kind.ofFirst? c with
        | none => exact stray c cs hb hk
        | some kind =>
          have hle := Text.length_dropWhile_le kind.goesOn cs
          exact token c cs kind hb hk (ih _ (by simp only [List.length_cons]; omega) _ rfl)

/-- A token read in front of others puts its lexeme in front of theirs. -/
private theorem lexemes_map_cons (token : Token) (tokens : Except LexError (List Token)) :
    (tokens.map (token :: ·)).toOption.map (·.map lexeme) =
      (tokens.toOption.map (·.map lexeme)).map (token.lexeme :: ·) := by
  cases tokens <;> rfl

/-- The lexemes do not depend on the offset at which the text starts. -/
private theorem lexemes_tokensFrom (offset : Nat) (cs : List Char) :
    (tokensFrom offset cs).toOption.map (·.map lexeme) = lexemes? cs := by
  rw [lexemes?]
  -- the two offsets move on apart from each other, so both are left open
  generalize 0 = start
  induction cs using scan_induction generalizing offset start with
  | nil => rw [tokensFrom_nil, tokensFrom_nil]
  | blank c cs hb ih =>
    rw [tokensFrom_blank _ _ hb, tokensFrom_blank _ _ hb]
    exact ih _ _
  | stray c cs hb hk =>
    rw [tokensFrom, tokensFrom]
    -- both stop at the stray character
    simp [hb, hk, Except.toOption]
  | token c cs kind hb hk ih =>
    rw [tokensFrom_first _ _ hb hk, tokensFrom_first _ _ hb hk, lexemes_map_cons,
      lexemes_map_cons, ih]
    rfl

/-- An empty text has no lexemes. -/
@[simp] theorem lexemes?_nil : lexemes? [] = some [] := by
  rw [lexemes?, tokensFrom_nil]
  rfl

/-- A blank in front of a text is passed over. -/
private theorem lexemes?_blank {c : Char} (cs : List Char) (hb : Text.isBlank c = true) :
    lexemes? (c :: cs) = lexemes? cs := by
  rw [lexemes?, tokensFrom_blank _ _ hb, lexemes_tokensFrom]

/-- A text that starts with a stray character has no lexemes. -/
private theorem lexemes?_stray {c : Char} (cs : List Char) (hb : Text.isBlank c = false)
    (hk : Kind.ofFirst? c = none) : lexemes? (c :: cs) = none := by
  rw [lexemes?, tokensFrom]
  simp [hb, hk, Except.toOption]

/-- The first lexeme of a text takes every character that it goes on with. -/
private theorem lexemes?_first {c : Char} {kind : Kind} (cs : List Char)
    (hb : Text.isBlank c = false) (hk : Kind.ofFirst? c = some kind) :
    lexemes? (c :: cs) = (lexemes? (cs.dropWhile kind.goesOn)).map
      (⟨kind, .ofList (c :: cs.takeWhile kind.goesOn)⟩ :: ·) := by
  rw [lexemes?, tokensFrom_first _ _ hb hk, lexemes_map_cons, lexemes_tokensFrom]
  rfl

/-- The tokens of a text have its lexemes. -/
theorem lexemes?_of_tokenize {text : String} {tokens : List Token}
    (h : tokenize text = .ok tokens) : lexemes? text.toList = some (tokens.map lexeme) := by
  rw [lexemes?, ← tokenize, h]
  rfl

/-- A text with lexemes splits into tokens. -/
theorem tokenize_of_lexemes? {text : String} {ls : List Lexeme}
    (h : lexemes? text.toList = some ls) :
    ∃ tokens, tokenize text = .ok tokens ∧ tokens.map lexeme = ls := by
  rw [lexemes?, ← tokenize] at h
  cases ht : tokenize text with
  | error e => rw [ht] at h; exact nomatch h
  | ok tokens =>
    rw [ht] at h
    exact ⟨tokens, rfl, Option.some.inj h⟩

/-! ## Characters -/

/-- The digits, by their numbers. -/
theorem isDigit_iff (c : Char) : c.isDigit = true ↔ 48 ≤ c.toNat ∧ c.toNat ≤ 57 := by
  simp only [Char.isDigit, Bool.and_eq_true, decide_eq_true_eq, ge_iff_le,
    UInt32.le_iff_toNat_le]
  rfl

/-- What words start with, by number: letters and the underscore. -/
theorem isWordStart_iff (c : Char) :
    isWordStart c = true ↔
      65 ≤ c.toNat ∧ c.toNat ≤ 90 ∨ 97 ≤ c.toNat ∧ c.toNat ≤ 122 ∨ c.toNat = 95 := by
  have halpha : c.isAlpha = (decide (65 ≤ c.val ∧ c.val ≤ 90) || (97 ≤ c.val && c.val ≤ 122)) := rfl
  simp only [isWordStart, halpha, Bool.or_eq_true, Bool.and_eq_true, decide_eq_true_eq,
    beq_iff_eq, UInt32.le_iff_toNat_le, Char.ext_iff, ← UInt32.toNat_inj, or_assoc]
  rfl

/-- Words go on with what they start with, and with digits. -/
theorem isWordPart_eq (c : Char) : isWordPart c = (isWordStart c || c.isDigit) := by
  simp only [isWordPart, isWordStart, Char.isAlphanum, Bool.or_assoc, Bool.or_comm c.isDigit]

/-- No word starts with a digit. -/
private theorem isDigit_of_isWordStart {c : Char} (h : isWordStart c = true) :
    c.isDigit = false := by
  rw [Bool.eq_false_iff]
  intro hdigit
  rw [isWordStart_iff] at h
  rw [isDigit_iff] at hdigit
  omega

/-- No token goes on with a blank. -/
theorem goesOn_of_blank (kind : Kind) {c : Char} (hc : Text.isBlank c = true) :
    kind.goesOn c = false := by
  simp only [Text.isBlank, Bool.or_eq_true, Bool.and_eq_true, decide_eq_true_eq,
    beq_iff_eq] at hc
  -- blanks have smaller numbers than digits and letters, or larger ones
  have hdigit : c.isDigit = false := by
    rw [Bool.eq_false_iff, ne_eq, isDigit_iff]
    omega
  have hstart : isWordStart c = false := by
    rw [Bool.eq_false_iff, ne_eq, isWordStart_iff]
    omega
  cases kind <;> simp [Kind.goesOn, isWordPart_eq, hdigit, hstart]

/-- What a token starts with is no blank. -/
theorem not_blank_of_ofFirst? {c : Char} {kind : Kind} (h : Kind.ofFirst? c = some kind) :
    Text.isBlank c = false := by
  rw [Bool.eq_false_iff]
  intro hb
  have hword := goesOn_of_blank .identifier hb
  rw [Kind.goesOn, isWordPart_eq, Bool.or_eq_false_iff] at hword
  simp only [Kind.ofFirst?, hword, Bool.false_eq_true, if_false] at h
  have hmark := (Kind.ofMark?_eq_some_iff c kind).mp h
  -- neither a letter nor a digit, so `c` is one of the marks
  cases kind <;> simp only [Kind.mark?, Option.some.injEq, reduceCtorEq] at hmark <;>
    subst hmark <;> simp [Text.isBlank] at hb

/-! ## Blanks -/

/-- A blank separates a text: what stands on its two sides is read by itself. -/
theorem lexemes?_append_blank (as bs : List Char) {c : Char} (hc : Text.isBlank c = true) :
    lexemes? (as ++ c :: bs) =
      (lexemes? as).bind fun ls => (lexemes? bs).map (ls ++ ·) := by
  induction as using scan_induction with
  | nil => simp [lexemes?_blank bs hc]
  | blank a as hb ih => rw [List.cons_append, lexemes?_blank _ hb, lexemes?_blank _ hb, ih]
  | stray a as hb hk =>
    rw [List.cons_append, lexemes?_stray _ hb hk, lexemes?_stray _ hb hk]
    rfl
  | token a as kind hb hk ih =>
    -- a token in front of the blank ends there at the latest
    have hstop := goesOn_of_blank kind hc
    rw [List.cons_append, lexemes?_first _ hb hk, lexemes?_first _ hb hk,
      Text.takeWhile_append_cons _ _ hstop, Text.dropWhile_append_cons _ _ hstop, ih]
    -- the two sides differ in how the lists are put together only
    cases lexemes? (as.dropWhile kind.goesOn) <;> cases lexemes? bs <;> rfl

/-- Blanks in front of a text do not matter. -/
private theorem lexemes?_blanks_append {gap : List Char} (bs : List Char)
    (hgap : gap.all Text.isBlank = true) : lexemes? (gap ++ bs) = lexemes? bs := by
  induction gap with
  | nil => rfl
  | cons c gap ih =>
    rw [List.all_cons, Bool.and_eq_true] at hgap
    rw [List.cons_append, lexemes?_blank _ hgap.1, ih hgap.2]

/-- Blanks hold no lexemes. -/
private theorem lexemes?_blanks {gap : List Char} (hgap : gap.all Text.isBlank = true) :
    lexemes? gap = some [] := by
  rw [← List.append_nil gap, lexemes?_blanks_append [] hgap, lexemes?_nil]

/-- Blanks behind a text do not matter. -/
theorem lexemes?_append_blanks (as : List Char) {gap : List Char}
    (hgap : gap.all Text.isBlank = true) : lexemes? (as ++ gap) = lexemes? as := by
  cases gap with
  | nil => rw [List.append_nil]
  | cons c gap =>
    rw [List.all_cons, Bool.and_eq_true] at hgap
    rw [lexemes?_append_blank as gap hgap.1, lexemes?_blanks hgap.2]
    cases lexemes? as <;> simp

/-! ## Spelled lexemes -/

/-- Identifiers are the tokens that start like words. -/
theorem ofFirst?_eq_identifier_iff (c : Char) :
    Kind.ofFirst? c = some .identifier ↔ isWordStart c = true := by
  constructor
  · intro h
    simp only [Kind.ofFirst?] at h
    split at h
    · -- digits are tried first
      exact nomatch h
    · split at h
      · assumption
      · exact nomatch (Kind.ofMark?_eq_some_iff _ _).mp h
  · intro h
    simp [Kind.ofFirst?, isDigit_of_isWordStart h, h]

/-- Integers are the tokens that start with digits. -/
theorem ofFirst?_eq_integer_iff (c : Char) :
    Kind.ofFirst? c = some .integer ↔ c.isDigit = true := by
  constructor
  · intro h
    simp only [Kind.ofFirst?] at h
    split at h
    · assumption
    · split at h
      · exact nomatch h
      · exact nomatch (Kind.ofMark?_eq_some_iff _ _).mp h
  · intro h
    simp [Kind.ofFirst?, h]

/-- A mark is what tokens of its kind start with. -/
theorem ofFirst?_eq_mark_iff {kind : Kind} {c : Char} (hc : kind.mark? = some c) (d : Char) :
    Kind.ofFirst? d = some kind ↔ d = c := by
  constructor
  · intro h
    simp only [Kind.ofFirst?] at h
    -- digits and letters are tried first, and their kinds have no mark
    split at h
    · cases h
      exact nomatch hc
    · split at h
      · cases h
        exact nomatch hc
      · rw [Kind.ofMark?_eq_some_iff, hc] at h
        exact (Option.some.inj h).symm
  · -- for each kind with a mark, the mark is tried behind digits and letters and is neither
    rintro rfl
    cases kind <;> cases hc <;> rfl

/-- A mark stands alone. -/
private theorem goesOn_of_mark? {kind : Kind} {c : Char} (hc : kind.mark? = some c) (d : Char) :
    kind.goesOn d = false := by
  cases kind <;> first | rfl | exact nomatch hc

/-- No token goes on with a mark. -/
private theorem goesOn_mark (kind : Kind) {other : Kind} {c : Char} (hc : other.mark? = some c) :
    kind.goesOn c = false := by
  cases other <;> simp only [Kind.mark?, Option.some.injEq, reduceCtorEq] at hc <;> subst hc <;>
    cases kind <;> rfl

/-- The text of a spelled lexeme, character by character. -/
theorem spelled_iff (l : Lexeme) :
    l.spelled = true ↔ ∃ c cs, l.text.toList = c :: cs ∧ Kind.ofFirst? c = some l.kind ∧
      ∀ d ∈ cs, l.kind.goesOn d = true := by
  rw [Lexeme.spelled]
  cases l.text.toList with
  | nil => simp
  | cons c cs =>
    simp only [Bool.and_eq_true, beq_iff_eq, List.all_eq_true, List.cons.injEq]
    exact ⟨fun h => ⟨c, cs, ⟨rfl, rfl⟩, h⟩, fun ⟨_, _, ⟨rfl, rfl⟩, h⟩ => h⟩

/-- A word is spelled if it is an identifier. -/
@[simp] theorem spelled_word (text : String) : (Lexeme.word text).spelled = isIdentifier text := by
  simp only [Lexeme.spelled, Lexeme.word, isIdentifier]
  cases text.toList with
  | nil => rfl
  | cons c cs =>
    rw [Bool.eq_iff_iff]
    simp [ofFirst?_eq_identifier_iff, Kind.goesOn]

/-- A number is spelled if it is one integer. -/
@[simp] theorem spelled_number (text : String) : (Lexeme.number text).spelled = isNumeral text := by
  simp only [Lexeme.spelled, Lexeme.number, isNumeral]
  cases text.toList with
  | nil => rfl
  | cons c cs =>
    rw [Bool.eq_iff_iff]
    simp [ofFirst?_eq_integer_iff, Kind.goesOn]

/-- A punctuation lexeme is spelled if it is the mark of its kind. -/
theorem spelled_iff_eq_mark {l : Lexeme} {c : Char} (hc : l.kind.mark? = some c) :
    l.spelled = true ↔ l = .mark l.kind := by
  have hstop := goesOn_of_mark? hc
  rw [spelled_iff]
  constructor
  · rintro ⟨d, ds, htext, hd, hds⟩
    rw [ofFirst?_eq_mark_iff hc] at hd
    -- a mark goes on with nothing, so it is the only character
    cases ds with
    | nil =>
      have hlist : l.text.toList = [c] := by rw [htext, hd]
      have hl : l.text = .ofList [c] := by rw [← hlist, String.ofList_toList]
      cases l
      simp only at hl hc
      simp only [Lexeme.mark, hc, Option.toList_some, hl]
    | cons e ds => exact absurd (hds e (by simp)) (by simp [hstop])
  · intro h
    refine ⟨c, [], ?_, (ofFirst?_eq_mark_iff hc c).mpr rfl, by simp⟩
    rw [h, Lexeme.mark, hc, Option.toList_some, String.toList_ofList]

/-- No blank stands in a spelled lexeme. -/
theorem not_blank_of_mem_spelled {l : Lexeme} (hl : l.spelled = true) {c : Char}
    (hc : c ∈ l.text.toList) : Text.isBlank c = false := by
  obtain ⟨d, ds, htext, hk, hds⟩ := (spelled_iff l).mp hl
  rw [htext, List.mem_cons] at hc
  rcases hc with rfl | hc
  · exact not_blank_of_ofFirst? hk
  · rw [Bool.eq_false_iff]
    intro hblank
    exact absurd (hds c hc) (by simp [goesOn_of_blank l.kind hblank])

/-- A mark stands in the lexeme of its kind only. -/
theorem kind_of_mem_spelled {l : Lexeme} (hl : l.spelled = true) {kind : Kind} {c : Char}
    (hmark : kind.mark? = some c) (hc : c ∈ l.text.toList) : l.kind = kind := by
  obtain ⟨d, ds, htext, hk, hds⟩ := (spelled_iff l).mp hl
  rw [htext, List.mem_cons] at hc
  rcases hc with rfl | hc
  · rw [(ofFirst?_eq_mark_iff hmark c).mpr rfl] at hk
    exact (Option.some.inj hk).symm
  · exact absurd (hds c hc) (by simp [goesOn_mark l.kind hmark])

/-- Every lexeme of a text is spelled like its kind. -/
theorem spelled_of_lexemes? {cs : List Char} {ls : List Lexeme} (h : lexemes? cs = some ls) :
    ∀ l ∈ ls, l.spelled = true := by
  induction cs using scan_induction generalizing ls with
  | nil =>
    rw [lexemes?_nil] at h
    cases h
    simp
  | blank c cs hb ih => exact ih (lexemes?_blank cs hb ▸ h)
  | stray c cs hb hk => rw [lexemes?_stray cs hb hk] at h; exact nomatch h
  | token c cs kind hb hk ih =>
    rw [lexemes?_first cs hb hk] at h
    obtain ⟨later, hlater, rfl⟩ := Option.map_eq_some_iff.mp h
    rw [List.forall_mem_cons]
    -- the lexeme is its first character and the run behind it
    refine ⟨(spelled_iff _).mpr ⟨c, cs.takeWhile kind.goesOn, String.toList_ofList, hk, ?_⟩,
      ih hlater⟩
    exact List.all_eq_true.mp List.all_takeWhile

/-- The lexemes of a text are parts of it. -/
theorem infix_of_mem_lexemes? {cs : List Char} {ls : List Lexeme} (h : lexemes? cs = some ls)
    {l : Lexeme} (hl : l ∈ ls) : l.text.toList <:+: cs := by
  induction cs using scan_induction generalizing ls with
  | nil =>
    rw [lexemes?_nil] at h
    cases h
    exact nomatch hl
  | blank d cs hb ih =>
    exact (ih (lexemes?_blank cs hb ▸ h) hl).trans (List.suffix_cons d cs).isInfix
  | stray d cs hb hk => rw [lexemes?_stray cs hb hk] at h; exact nomatch h
  | token d cs kind hb hk ih =>
    rw [lexemes?_first cs hb hk] at h
    obtain ⟨later, hlater, rfl⟩ := Option.map_eq_some_iff.mp h
    rcases List.mem_cons.mp hl with rfl | hl
    · rw [String.toList_ofList]
      -- the first lexeme is the front of the text, and the others stand behind it
      have hrun : cs.takeWhile kind.goesOn <+: cs := List.takeWhile_prefix kind.goesOn
      exact ((List.prefix_cons_inj d).mpr hrun).isInfix
    · have hrest := (List.dropWhile_suffix kind.goesOn).trans (List.suffix_cons d cs)
      exact (ih hlater hl).trans hrest.isInfix

/-- A text without lexemes is blank. -/
theorem blank_of_lexemes?_eq_nil {cs : List Char} (h : lexemes? cs = some []) :
    cs.all Text.isBlank = true := by
  induction cs using scan_induction with
  | nil => rfl
  | blank d cs hb ih => rw [List.all_cons, hb, ih (lexemes?_blank cs hb ▸ h), Bool.and_self]
  | stray d cs hb hk => rw [lexemes?_stray cs hb hk] at h; exact nomatch h
  | token d cs kind hb hk ih =>
    rw [lexemes?_first cs hb hk] at h
    obtain ⟨later, _, hcons⟩ := Option.map_eq_some_iff.mp h
    exact nomatch hcons

/-! ## Placed lexemes -/

/-- A spelled lexeme is read back where nothing follows that it would go on with. -/
private theorem lexemes?_spelled_append {l : Lexeme} (hl : l.spelled = true) {rest : List Char}
    (hrest : ∀ c ∈ rest.head?, l.kind.goesOn c = false) :
    lexemes? (l.text.toList ++ rest) = (lexemes? rest).map (l :: ·) := by
  obtain ⟨c, cs, htext, hk, hcs⟩ := (spelled_iff l).mp hl
  rw [htext, List.cons_append, lexemes?_first _ (not_blank_of_ofFirst? hk) hk,
    Text.takeWhile_append_of_stop hcs hrest, Text.dropWhile_append_of_stop hcs hrest,
    ← htext, String.ofList_toList]

/-- A lexeme that is no word has a mark. -/
private theorem mark?_of_not_isWord {l : Lexeme} (h : l.isWord = false) :
    ∃ c, l.kind.mark? = some c := by
  rw [Lexeme.isWord] at h
  cases hk : l.kind <;> rw [hk] at h <;> first | exact ⟨_, rfl⟩ | exact nomatch h

/-- A lexeme goes on with nothing that another one starts with, unless both are words. -/
private theorem goesOn_of_spelled {l m : Lexeme} (hm : m.spelled = true)
    (hwords : ¬ (l.isWord = true ∧ m.isWord = true)) :
    ∀ c ∈ m.text.toList.head?, l.kind.goesOn c = false := by
  obtain ⟨d, ds, htext, hk, _⟩ := (spelled_iff m).mp hm
  rw [htext, List.head?_cons]
  rintro c ⟨⟩
  rw [Decidable.not_and_iff_or_not, Bool.not_eq_true, Bool.not_eq_true] at hwords
  -- one of the two is a mark, which neither goes on nor is gone on with
  rcases hwords with hl | hm
  · obtain ⟨e, he⟩ := mark?_of_not_isWord hl
    exact goesOn_of_mark? he d
  · obtain ⟨e, he⟩ := mark?_of_not_isWord hm
    rw [(ofFirst?_eq_mark_iff he d).mp hk]
    exact goesOn_mark _ he

/-- No lexeme goes on with blanks. -/
private theorem goesOn_of_blanks (kind : Kind) {cs : List Char} (hcs : cs.all Text.isBlank = true) :
    ∀ c ∈ cs.head?, kind.goesOn c = false := by
  intro c hc
  exact goesOn_of_blank kind (List.all_eq_true.mp hcs c (List.mem_of_mem_head? hc))

/-- Behind a lexeme of a layout stands a blank, the next lexeme or nothing, and it
goes on with none of them. -/
private theorem goesOn_of_placed {l : PlacedLexeme} {placed : List PlacedLexeme}
    (hspelled : ∀ m ∈ placed, m.lexeme.spelled = true)
    (hblank : ∀ m ∈ placed, m.gap.all Text.isBlank = true) (hapart : WordsApart (l :: placed))
    {rest : List Char} (hrest : rest.all Text.isBlank = true) :
    ∀ c ∈ (placed.flatMap PlacedLexeme.text ++ rest).head?, l.lexeme.kind.goesOn c = false := by
  cases placed with
  -- behind the last lexeme there are only blanks
  | nil => exact goesOn_of_blanks _ hrest
  | cons m placed =>
    have hm := hspelled m List.mem_cons_self
    obtain ⟨e, es, htext, _⟩ := (spelled_iff _).mp hm
    rw [List.flatMap_cons, PlacedLexeme.text, List.append_assoc, List.append_assoc]
    cases hgap : m.gap with
    | nil =>
      -- without a gap one of the two is a mark
      have hwords : ¬ (l.lexeme.isWord = true ∧ m.lexeme.isWord = true) := fun h =>
        hapart.1 h.1 h.2 hgap
      have hstop := goesOn_of_spelled hm hwords
      rwa [List.nil_append, List.head?_append, htext, List.head?_cons, Option.some_or,
        ← List.head?_cons, ← htext]
    | cons c gap =>
      -- with a gap, a blank follows
      have hgapBlank := hblank m List.mem_cons_self
      rw [List.cons_append, List.head?_cons]
      rw [hgap] at hgapBlank
      exact goesOn_of_blanks _ hgapBlank

/-- A layout is read back as the lexemes that it places. -/
theorem lexemes?_placed {placed : List PlacedLexeme}
    (hspelled : ∀ l ∈ placed, l.lexeme.spelled = true)
    (hblank : ∀ l ∈ placed, l.gap.all Text.isBlank = true) (hapart : WordsApart placed)
    (rest : List Char) (hrest : rest.all Text.isBlank = true) :
    lexemes? (placed.flatMap PlacedLexeme.text ++ rest) = some (placed.map (·.lexeme)) := by
  induction placed with
  | nil => exact lexemes?_blanks hrest
  | cons l placed ih =>
    rw [List.forall_mem_cons] at hspelled hblank
    have hstop := goesOn_of_placed hspelled.2 hblank.2 hapart hrest
    -- words that are kept apart in the whole layout are so behind its first lexeme
    have hlater : WordsApart placed := by
      cases placed with
      | nil => trivial
      | cons m placed => exact hapart.2
    -- the gap is passed over, the lexeme is read up to its end, and the rest by the induction
    rw [List.flatMap_cons, List.append_assoc, PlacedLexeme.text, List.append_assoc,
      lexemes?_blanks_append _ hblank.1, lexemes?_spelled_append hspelled.1 hstop,
      ih hspelled.2 hblank.2 hlater]
    rfl

/-! ## Lines -/

/-- A line break is a blank. -/
theorem isBlank_lineFeed : Text.isBlank '\n' = true := by
  simp [Text.isBlank]

/-- A space is a blank. -/
theorem isBlank_space : Text.isBlank ' ' = true := by
  simp [Text.isBlank]

/-- A carriage return at the end of a line does not matter. -/
theorem lexemes?_dropReturn (line : List Char) :
    lexemes? (Text.dropReturn line) = lexemes? line := by
  have hblank : ['\r'].all Text.isBlank = true := by simp [Text.isBlank]
  rcases Text.eq_dropReturn_append line with h | h
  · rw [← h]
  · rw [h, lexemes?_append_blanks _ hblank, ← h]

/-- Joining the lines of a text by spaces keeps its lexemes. -/
theorem lexemes?_joined_lines (cs : List Char) :
    lexemes? ([' '].intercalate ((Text.lines cs).map Text.dropReturn)) = lexemes? cs := by
  induction cs using Text.break_induction with
  | last cs h =>
    cases cs with
    | nil => rw [Text.lines_nil, List.map_nil, List.intercalate_nil]
    | cons c cs =>
      rw [Text.lines_of_no_break (List.cons_ne_nil c cs) h, List.map_singleton,
        List.intercalate_singleton, lexemes?_dropReturn]
  | next line rest h ih =>
    rw [Text.lines_cons_break line rest h, List.map_cons,
      lexemes?_append_blank _ _ isBlank_lineFeed]
    -- a space is put in front of the lines that follow, so there has to be one
    by_cases hrest : rest = []
    · rw [hrest, Text.lines_nil, List.map_nil, List.intercalate_singleton, lexemes?_dropReturn,
        lexemes?_dropReturn, lexemes?_nil]
      cases lexemes? line <;> simp
    · have hlines : (Text.lines rest).map Text.dropReturn ≠ [] := by
        rwa [ne_eq, List.map_eq_nil_iff, Text.lines_eq_nil_iff]
      rw [List.intercalate_cons_of_ne_nil hlines, List.append_assoc, List.singleton_append,
        lexemes?_append_blank _ _ isBlank_space, lexemes?_dropReturn, lexemes?_dropReturn, ih]

end Token

end VulkanGen
