import VulkanGen.Declaration.Parser
import VulkanGen.Declaration.Grammar

/-!
# What the readers accept

Each reader of a declaration succeeds on exactly those tokens that start with what
it reads, and leaves what follows.  The statements here are about tokens; what they
mean for a whole declaration is put together elsewhere.

## Key results

- `marker_eq_ok_iff`, `expect_eq_ok_iff`: one token
- `returnType_eq_ok_iff`: the words up to the second marker
- `extent_eq_ok_iff`, `nameAndType_eq_ok_iff`: the parts of a parameter
- `parameter_eq_ok_iff`: a parameter in front of a comma or a parenthesis
- `parametersFrom_eq_ok_iff`, `parameters_eq_ok_iff`: a parameter list
- `declaration_eq_ok_iff`: a whole declaration
-/

namespace VulkanGen.Declaration

/-- A token is a word if its lexeme is. -/
theorem isWord_iff (token : Token) (text : String) :
    token.isWord text = true ↔ token.lexeme = .word text := by
  simp [Token.isWord, Token.lexeme, Lexeme.word]

/-- Two readers in a row succeed if both do. -/
private theorem bind_eq_ok_iff {ε α β : Type} (x : Except ε α) (f : α → Except ε β) (b : β) :
    x >>= f = .ok b ↔ ∃ a, x = .ok a ∧ f a = .ok b := by
  cases x <;> simp [bind, Except.bind]

/-- A reader that checks something first succeeds if the check does not fail. -/
private theorem ite_error_eq_ok_iff {ε α : Type} {c : Prop} [Decidable c] (e : ε) (x : Except ε α)
    (a : α) : (if c then .error e else x) = .ok a ↔ ¬ c ∧ x = .ok a := by
  by_cases h : c <;> simp [h]

/-- A marker is read off the front. -/
theorem marker_eq_ok_iff (word : String) (tokens rest : List Token) (u : Unit) :
    marker word tokens = .ok (u, rest) ↔
      ∃ token, tokens = token :: rest ∧ token.isWord word = true := by
  cases tokens with
  | nil => simp [marker]
  | cons token tokens =>
    simp only [marker, List.cons.injEq]
    split
    · next h =>
      simp only [Except.ok.injEq, Prod.mk.injEq, true_and]
      exact ⟨fun hrest => ⟨token, ⟨rfl, hrest⟩, h⟩, fun ⟨_, ⟨_, hrest⟩, _⟩ => hrest⟩
    · next h =>
      simp only [reduceCtorEq, false_iff]
      rintro ⟨_, ⟨rfl, _⟩, hword⟩
      exact h hword

/-- A token of a kind is read off the front. -/
theorem expect_eq_ok_iff (kind : Token.Kind) (tokens rest : List Token) (token : Token) :
    expect kind tokens = .ok (token, rest) ↔ tokens = token :: rest ∧ token.kind = kind := by
  cases tokens with
  -- nothing is expected behind the last token
  | nil => simp [expect]
  | cons first tokens =>
    simp only [expect]
    -- the first token is taken if it is of the kind, and is the error otherwise
    split
    · next h =>
      rw [beq_iff_eq] at h
      simp only [Except.ok.injEq, Prod.mk.injEq, List.cons.injEq]
      exact ⟨fun hfr => ⟨hfr, hfr.1 ▸ h⟩, fun hfr => hfr.1⟩
    · next h =>
      rw [beq_iff_eq] at h
      simp only [reduceCtorEq, List.cons.injEq, false_iff]
      rintro ⟨⟨rfl, _⟩, hk⟩
      exact h hk

/-- Whether a token is a part of a return type: a type word, and not the second marker. -/
def inReturnType (token : Token) : Bool :=
  token.isTypeWord && !token.isWord callMarker

/-- The return type, with its words and what follows them as they are found. -/
private theorem returnType_eq (tokens : List Token) :
    returnType tokens =
      match tokens.dropWhile inReturnType with
      | [] =>
        if (tokens.takeWhile inReturnType).isEmpty then .error .noReturnType
        else .ok (renderType (tokens.takeWhile inReturnType), [])
      | next :: rest =>
        if !next.isTypeWord then .error (.strayInReturnType next.text)
        else if (tokens.takeWhile inReturnType).isEmpty then .error .noReturnType
        else .ok (renderType (tokens.takeWhile inReturnType), next :: rest) := rfl

/-- The words of a return type are read up to the second marker or the end. -/
theorem returnType_eq_ok_iff (tokens rest : List Token) (type : String) :
    returnType tokens = .ok (type, rest) ↔
      ∃ words, tokens = words ++ rest ∧ words ≠ [] ∧ (∀ w ∈ words, inReturnType w = true) ∧
        (∀ next ∈ rest.head?, next.isWord callMarker = true) ∧ type = renderType words := by
  rw [returnType_eq]
  constructor
  · intro h
    obtain ⟨words, behind, rfl, hall, hstop, htake, hdrop⟩ := Text.exists_run inReturnType tokens
    rw [htake, hdrop] at h
    cases behind with
    | nil =>
      -- the type goes on up to the end, where there is no marker to check
      simp only [ite_error_eq_ok_iff, Except.ok.injEq, Prod.mk.injEq] at h
      obtain ⟨hne, rfl, rfl⟩ := h
      exact ⟨words, rfl, by simpa using hne, hall, by simp, rfl⟩
    | cons next behind =>
      simp only [ite_error_eq_ok_iff, Except.ok.injEq, Prod.mk.injEq] at h
      obtain ⟨hword, hne, rfl, rfl⟩ := h
      refine ⟨words, rfl, by simpa using hne, hall, ?_, rfl⟩
      -- the word that stops the type is a type word, so it is the marker
      rintro t ⟨⟩
      have hnext := hstop next rfl
      rw [Bool.not_eq_true', Bool.not_eq_false] at hword
      simpa [inReturnType, hword] using hnext
  · -- the other way, the words are the longest run, as the marker stops it
    rintro ⟨words, rfl, hne, hall, hnext, rfl⟩
    have hstop : ∀ next ∈ rest.head?, inReturnType next = false := fun next h => by
      simp [inReturnType, hnext next h]
    have hempty : words.isEmpty = false := by simpa using hne
    rw [Text.takeWhile_append_of_stop hall hstop, Text.dropWhile_append_of_stop hall hstop]
    cases rest with
    | nil => simp [hempty]
    | cons next rest =>
      have hnext := hnext next rfl
      have hword : next.isTypeWord = true := by
        rw [Token.isWord, Bool.and_eq_true] at hnext
        rw [Token.isTypeWord, hnext.1, Bool.true_or]
      simp [hempty, hword]

/-- An extent is a number in range and a closing bracket. -/
theorem extent_eq_ok_iff (name : String) (tokens rest : List Token) (e : Extent) :
    extent name tokens = .ok (e, rest) ↔
      ∃ size close, tokens = size :: close :: rest ∧ size.kind = .integer ∧
        close.kind = .rightBracket ∧
        Extent.ofNat? (Text.decimal size.text.toList) = some e := by
  simp only [extent, bind_eq_ok_iff, Prod.exists, expect_eq_ok_iff]
  constructor
  · rintro ⟨size, behind, ⟨rfl, hsize⟩, h⟩
    -- a number out of range is an error of its own
    cases hextent : Extent.ofNat? (Text.decimal size.text.toList) with
    | none =>
      rw [hextent] at h
      contradiction
    | some extent =>
      simp only [hextent, bind_eq_ok_iff, Prod.exists, expect_eq_ok_iff] at h
      obtain ⟨close, after, ⟨rfl, hclose⟩, h⟩ := h
      cases h
      exact ⟨size, close, rfl, hsize, hclose, hextent⟩
  · -- with a number in range the reader goes on to the bracket
    rintro ⟨size, close, rfl, hsize, hclose, hextent⟩
    refine ⟨size, close :: rest, ⟨rfl, hsize⟩, ?_⟩
    simp only [hextent, bind_eq_ok_iff, Prod.exists, expect_eq_ok_iff]
    exact ⟨close, rest, ⟨rfl, hclose⟩, rfl⟩

/-- The last word of a parameter is its name, and those in front of it are its type. -/
theorem nameAndType_eq_ok_iff (ordinal : Nat) (words : List Token) (name type : String) :
    nameAndType ordinal words = .ok (name, type) ↔
      ∃ front last, words = front ++ [last] ∧ front ≠ [] ∧ last.kind = .identifier ∧
        name = last.text ∧ type = renderType front := by
  rw [nameAndType]
  constructor
  · intro h
    split at h
    · contradiction
    · next last hlast =>
      obtain ⟨front, rfl⟩ := List.getLast?_eq_some_iff.mp hlast
      rw [List.dropLast_concat] at h
      -- both checks have passed: the name is a word, and the type is not empty
      simp only [ite_error_eq_ok_iff, Except.ok.injEq, Prod.mk.injEq] at h
      obtain ⟨hkind, hne, rfl, rfl⟩ := h
      exact ⟨front, last, rfl, by simpa using hne, by simpa using hkind, rfl, rfl⟩
  · rintro ⟨front, last, rfl, hne, hkind, rfl, rfl⟩
    have hempty : front.isEmpty = false := by simpa using hne
    simp [hkind, hempty]

/-- A token that a parameter ends in front of. -/
def endsParameter (token : Token) : Bool :=
  token.kind == .comma || token.kind == .rightParen

/-- What ends a parameter is no part of a type and opens no extent. -/
private theorem not_isTypeWord_of_endsParameter {token : Token} (h : endsParameter token = true) :
    token.isTypeWord = false ∧ (token.kind == .leftBracket) = false := by
  simp only [endsParameter, Bool.or_eq_true, beq_iff_eq] at h
  rcases h with h | h <;> simp [Token.isTypeWord, h]

/-- The extent that stands between a parameter's name and what follows it, if one does. -/
inductive ExtentBehind (next : Token) (rest : List Token) : List Token → Option Extent → Prop
  | absent : ExtentBehind next rest (next :: rest) none
  | present (opening size closing : Token) (e : Extent) (hopening : opening.kind = .leftBracket)
      (hsize : size.kind = .integer) (hclosing : closing.kind = .rightBracket)
      (hextent : Extent.ofNat? (Text.decimal size.text.toList) = some e) :
      ExtentBehind next rest (opening :: size :: closing :: next :: rest) (some e)

/-- What is read behind the name of a parameter. -/
def behindName (name type : String) : List Token → Except Malformation (Parameter × List Token)
  | [] => .ok (⟨name, type, none⟩, [])
  | next :: rest =>
    if next.kind == .leftBracket then do
      let (e, rest) ← extent name rest
      return (⟨name, type, some e⟩, rest)
    else .ok (⟨name, type, none⟩, next :: rest)

/-- A parameter is its words and what stands behind them. -/
private theorem parameter_eq (ordinal : Nat) (tokens : List Token) :
    parameter ordinal tokens =
      nameAndType ordinal (tokens.takeWhile Token.isTypeWord) >>= fun (name, type) =>
        behindName name type (tokens.dropWhile Token.isTypeWord) := by
  rw [parameter]
  apply congrArg
  funext words
  obtain ⟨name, type⟩ := words
  cases tokens.dropWhile Token.isTypeWord <;> rfl

/-- Behind the name stands the extent, if there is one, and the end of the parameter. -/
private theorem behindName_eq_ok_iff (name type : String) (behind rest : List Token) (p : Parameter)
    {next : Token} (hnext : endsParameter next = true) :
    behindName name type behind = .ok (p, next :: rest) ↔
      ExtentBehind next rest behind p.extent ∧ p.name = name ∧ p.type = type := by
  obtain ⟨pname, ptype, pextent⟩ := p
  constructor
  · intro h
    cases behind with
    | nil => simp [behindName] at h
    | cons first behind =>
      rw [behindName] at h
      split at h
      · -- a bracket opens an extent
        next hopening =>
        simp only [bind_eq_ok_iff, Prod.exists, extent_eq_ok_iff] at h
        obtain ⟨e, _, ⟨size, closing, rfl, hsize, hclosing, hextent⟩, h⟩ := h
        cases h
        rw [beq_iff_eq] at hopening
        exact ⟨.present first size closing e hopening hsize hclosing hextent, rfl, rfl⟩
      · -- no bracket: the token is left for the list
        cases h
        exact ⟨.absent, rfl, rfl⟩
  · rintro ⟨h, rfl, rfl⟩
    -- what stands behind the name tells which way the reader goes
    cases h with
    | absent => simp [behindName, (not_isTypeWord_of_endsParameter hnext).2]
    | present opening size closing e hopening hsize hclosing hextent =>
      have hread := (extent_eq_ok_iff pname _ (next :: rest) e).mpr
        ⟨size, closing, rfl, hsize, hclosing, hextent⟩
      simp only [behindName, hopening, beq_self_eq_true, if_true, hread]
      rfl

/-- A parameter is a type, a name and maybe an extent. -/
theorem parameter_eq_ok_iff (ordinal : Nat) (tokens rest : List Token) (p : Parameter)
    {next : Token} (hnext : endsParameter next = true) :
    parameter ordinal tokens = .ok (p, next :: rest) ↔
      ∃ front last behind, tokens = front ++ last :: behind ∧ front ≠ [] ∧
        (∀ w ∈ front, w.isTypeWord = true) ∧ last.kind = .identifier ∧
        ExtentBehind next rest behind p.extent ∧
        p.name = last.text ∧ p.type = renderType front := by
  simp only [parameter_eq, bind_eq_ok_iff, Prod.exists, nameAndType_eq_ok_iff,
    behindName_eq_ok_iff _ _ _ _ _ hnext]
  constructor
  · rintro ⟨name, type, ⟨front, last, hwords, hne, hlast, rfl, rfl⟩, hbehind, hname, htype⟩
    -- the words of the parameter are the longest run of type words, and the name is the last one
    obtain ⟨words, behind, rfl, hall, _, htake, hdrop⟩ := Text.exists_run Token.isTypeWord tokens
    obtain rfl := htake.symm.trans hwords
    rw [hdrop] at hbehind
    refine ⟨front, last, behind, by simp, hne, ?_, hlast, hbehind, hname, htype⟩
    exact fun w hw => hall w (List.mem_append_left _ hw)
  · rintro ⟨front, last, behind, rfl, hne, hall, hlast, hbehind, hname, htype⟩
    have hwords : ∀ w ∈ front ++ [last], w.isTypeWord = true := by
      simp only [List.forall_mem_append, List.forall_mem_singleton]
      exact ⟨hall, by simp [Token.isTypeWord, hlast]⟩
    -- neither the end of the parameter nor an opening bracket is a word
    have hstop : ∀ t ∈ behind.head?, t.isTypeWord = false := by
      generalize p.extent = extent at hbehind
      cases hbehind with
      | absent =>
        rintro t ⟨⟩
        exact (not_isTypeWord_of_endsParameter hnext).1
      | present opening size closing e hopening =>
        rintro t ⟨⟩
        simp [Token.isTypeWord, hopening]
    rw [List.append_cons, Text.takeWhile_append_of_stop hwords hstop,
      Text.dropWhile_append_of_stop hwords hstop]
    exact ⟨_, _, ⟨front, last, rfl, hne, hlast, rfl, rfl⟩, hbehind, hname, htype⟩

/-- The steps of a parameter list. -/
private theorem parametersFrom_eq (ordinal : Nat) (tokens : List Token) :
    parametersFrom ordinal tokens =
      match parameter ordinal tokens with
      | .error e => .error e
      | .ok (p, []) => .ok ([p], [])
      | .ok (p, next :: rest) =>
        if next.kind == .comma then
          (parametersFrom (ordinal + 1) rest).map fun (ps, rest) => (p :: ps, rest)
        else .ok ([p], next :: rest) := by
  rw [parametersFrom]
  split <;> simp only [*]

/-- A parameter list in front of the closing parenthesis ends with a parameter there,
or goes on behind a comma. -/
theorem parametersFrom_eq_ok_iff (ordinal : Nat) (tokens after : List Token)
    (ps : List Parameter) {closing : Token} (hclosing : closing.kind = .rightParen) :
    parametersFrom ordinal tokens = .ok (ps, closing :: after) ↔
      (∃ p, parameter ordinal tokens = .ok (p, closing :: after) ∧ ps = [p]) ∨
      ∃ p comma rest qs, parameter ordinal tokens = .ok (p, comma :: rest) ∧
        comma.kind = .comma ∧
        parametersFrom (ordinal + 1) rest = .ok (qs, closing :: after) ∧ ps = p :: qs := by
  rw [parametersFrom_eq]
  cases hp : parameter ordinal tokens with
  | error e => simp
  | ok r =>
    obtain ⟨p, rest⟩ := r
    cases rest with
    -- with no token left there is no parenthesis to end in front of
    | nil => simp
    | cons next rest =>
      dsimp only
      by_cases hcomma : next.kind = .comma
      · -- the list goes on, so `next` is not the parenthesis that it ends in front of
        have hne : next ≠ closing := fun h => by simp [← h, hcomma] at hclosing
        rw [if_pos (by simp [hcomma])]
        cases hps : parametersFrom (ordinal + 1) rest with
        | error e => simp [Except.map, hne, hps]
        | ok r =>
          obtain ⟨qs, behind⟩ := r
          simp only [Except.map, Except.ok.injEq, Prod.mk.injEq, List.cons.injEq]
          constructor
          · rintro ⟨rfl, rfl⟩
            exact .inr ⟨p, next, rest, qs, ⟨rfl, rfl, rfl⟩, hcomma, hps, rfl⟩
          · rintro (⟨_, ⟨_, hnext, _⟩, _⟩ | ⟨q, _, _, qs', ⟨rfl, rfl, rfl⟩, _, hqs, rfl⟩)
            · exact absurd hnext hne
            · rw [hps, Except.ok.injEq, Prod.mk.injEq] at hqs
              exact ⟨by rw [hqs.1], hqs.2⟩
      · -- the list ends here, so `next` is the parenthesis
        rw [if_neg (by simpa using hcomma)]
        simp only [Except.ok.injEq, Prod.mk.injEq, List.cons.injEq]
        constructor
        · rintro ⟨rfl, rfl, rfl⟩
          exact .inl ⟨p, ⟨rfl, rfl, rfl⟩, rfl⟩
        · rintro (⟨q, ⟨rfl, rfl, rfl⟩, rfl⟩ | ⟨_, comma, _, _, ⟨_, rfl, _⟩, hkind, _⟩)
          · exact ⟨rfl, rfl, rfl⟩
          · exact absurd hkind hcomma

/-- Every parameter starts with two words that a type can hold. -/
private theorem two_words_of_parametersFrom {ordinal : Nat} {tokens after : List Token}
    {ps : List Parameter} {closing : Token} (hclosing : closing.kind = .rightParen)
    (h : parametersFrom ordinal tokens = .ok (ps, closing :: after)) :
    ∃ first second rest, tokens = first :: second :: rest ∧ first.isTypeWord = true ∧
      second.isTypeWord = true := by
  have hend : endsParameter closing = true := by simp [endsParameter, hclosing]
  -- whatever follows, a first parameter has been read
  obtain ⟨p, next, rest, hnext, hp⟩ : ∃ p next rest, endsParameter next = true ∧
      parameter ordinal tokens = .ok (p, next :: rest) := by
    rcases (parametersFrom_eq_ok_iff _ _ _ _ hclosing).mp h with
      ⟨p, hp, _⟩ | ⟨p, comma, rest, _, hp, hcomma, _⟩
    · exact ⟨p, closing, after, hend, hp⟩
    · exact ⟨p, comma, rest, by simp [endsParameter, hcomma], hp⟩
  obtain ⟨front, last, behind, rfl, hne, hall, hlast, _⟩ :=
    (parameter_eq_ok_iff _ _ _ _ hnext).mp hp
  have hlast : last.isTypeWord = true := by simp [Token.isTypeWord, hlast]
  -- the name is the second word where the type has only one
  match front, hne with
  | [first], _ => exact ⟨first, last, behind, rfl, hall first (by simp), hlast⟩
  | first :: second :: front, _ =>
    exact ⟨first, second, front ++ last :: behind, rfl, hall first (by simp),
      hall second (by simp)⟩

/-- The word `void` stands alone if the parenthesis follows it. -/
private theorem loneVoid_iff (tokens : List Token) :
    loneVoid tokens = true ↔
      ∃ word closing rest, tokens = word :: closing :: rest ∧ word.text = "void" ∧
        closing.kind = .rightParen := by
  match tokens with
  | [] | [_] => simp [loneVoid]
  | word :: closing :: rest =>
    simp only [loneVoid, Bool.and_eq_true, beq_iff_eq]
    constructor
    · exact fun h => ⟨word, closing, rest, rfl, h⟩
    · rintro ⟨_, _, _, ⟨rfl, rfl, rfl⟩, h⟩
      exact h

/-- A parameter list does not start with a parenthesis. -/
private theorem parametersFrom_ne_ok_of_closing {next : Token} (hnext : next.kind = .rightParen)
    (ordinal : Nat) (rest after : List Token) (ps : List Parameter) {closing : Token}
    (hclosing : closing.kind = .rightParen) :
    parametersFrom ordinal (next :: rest) ≠ .ok (ps, closing :: after) := by
  intro h
  obtain ⟨_, _, _, hcons, hword, _⟩ := two_words_of_parametersFrom hclosing h
  rw [← (List.cons.inj hcons).1, Token.isTypeWord, hnext] at hword
  contradiction

/-- A parameter list is not a word and a parenthesis. -/
private theorem parametersFrom_ne_ok_of_loneVoid {tokens : List Token}
    (hvoid : loneVoid tokens = true)
    (ordinal : Nat) (after : List Token) (ps : List Parameter) {closing : Token}
    (hclosing : closing.kind = .rightParen) :
    parametersFrom ordinal tokens ≠ .ok (ps, closing :: after) := by
  intro h
  obtain ⟨_, second, _, rfl, _, hsecond⟩ := (loneVoid_iff _).mp hvoid
  obtain ⟨_, _, _, hcons, _, hword⟩ := two_words_of_parametersFrom hclosing h
  simp only [List.cons.injEq] at hcons
  rw [← hcons.2.1, Token.isTypeWord, hsecond] at hword
  contradiction

/-- A list of parameters becomes a parameter list. -/
private theorem map_parameterList_eq_ok_iff (r : Except Malformation (List Parameter × List Token))
    (ps : ParameterList) (rest : List Token) :
    (r.map fun (ps, rest) => ((⟨ps⟩ : ParameterList), rest)) = .ok (ps, rest) ↔
      r = .ok (ps.toList, rest) := by
  obtain ⟨list⟩ := ps
  cases r <;> simp [Except.map, Prod.ext_iff]

/-- What is read between the parentheses: nothing, the word `void`, or a list. -/
theorem parameters_eq_ok_iff (tokens after : List Token) (ps : ParameterList) {closing : Token}
    (hclosing : closing.kind = .rightParen) :
    parameters tokens = .ok (ps, closing :: after) ↔
      (tokens = closing :: after ∧ ps = .empty) ∨
      (∃ void, tokens = void :: closing :: after ∧ void.kind ≠ .rightParen ∧
        void.text = "void" ∧ ps = .empty) ∨
      parametersFrom 1 tokens = .ok (ps.toList, closing :: after) := by
  cases tokens with
  | nil => simp [parameters, map_parameterList_eq_ok_iff]
  | cons next rest =>
    simp only [parameters]
    split
    · -- nothing stands between the parentheses
      next hnext =>
      rw [beq_iff_eq] at hnext
      have hlist := parametersFrom_ne_ok_of_closing hnext 1 rest after ps.toList hclosing
      simp only [Except.ok.injEq, Prod.mk.injEq, List.cons.injEq, hlist, or_false]
      constructor
      · rintro ⟨rfl, hcons⟩
        exact .inl ⟨hcons, rfl⟩
      · rintro (⟨hcons, rfl⟩ | ⟨_, ⟨rfl, _⟩, hkind, _⟩)
        · exact ⟨rfl, hcons⟩
        · exact absurd hnext hkind
    · next hnext =>
      rw [beq_iff_eq] at hnext
      have hfirst : next ≠ closing := fun h => hnext (h ▸ hclosing)
      split
      · -- the single word `void`
        next hvoid =>
        have hlist := parametersFrom_ne_ok_of_loneVoid hvoid 1 after ps.toList hclosing
        obtain ⟨_, _, _, hcons, htext, _⟩ := (loneVoid_iff _).mp hvoid
        obtain ⟨rfl, -⟩ := List.cons.inj hcons
        simp only [Except.ok.injEq, Prod.mk.injEq, List.cons.injEq, hlist, or_false, hfirst,
          false_and, false_or]
        constructor
        · rintro ⟨rfl, hrest⟩
          exact ⟨next, ⟨rfl, hrest⟩, hnext, htext, rfl⟩
        · rintro ⟨_, ⟨rfl, hrest⟩, _, _, rfl⟩
          exact ⟨rfl, hrest⟩
      · -- a list, and neither of the other two
        next hvoid =>
        rw [map_parameterList_eq_ok_iff]
        constructor
        · intro h
          exact .inr (.inr h)
        · rintro (⟨hcons, _⟩ | ⟨void, hcons, _, htext, _⟩ | h)
          · exact absurd (List.cons.inj hcons).1 hfirst
          · have hlone := (loneVoid_iff _).mpr ⟨void, closing, after, hcons, htext, hclosing⟩
            exact absurd hlone hvoid
          · exact h

/-- A declaration is its parts, one behind the other, and nothing else. -/
theorem declaration_eq_ok_iff (line : Nat) (tokens : List Token) (p : Prototype) :
    declaration line tokens = .ok p ↔
      ∃ start words call name opening inner closing semicolon,
        tokens = start :: (words ++ call :: name :: opening :: inner) ∧
        start.isWord attributeMarker = true ∧
        words ≠ [] ∧ (∀ w ∈ words, inReturnType w = true) ∧
        call.isWord callMarker = true ∧ name.kind = .identifier ∧ opening.kind = .leftParen ∧
        parameters inner = .ok (p.parameters, [closing, semicolon]) ∧
        closing.kind = .rightParen ∧ semicolon.kind = .semicolon ∧
        p.name = name.text ∧ p.returnType = renderType words ∧ p.line = line := by
  simp only [declaration, bind_eq_ok_iff, Prod.exists, marker_eq_ok_iff, expect_eq_ok_iff,
    returnType_eq_ok_iff]
  constructor
  · rintro ⟨_, _, ⟨start, rfl, hstart⟩, type, _, ⟨words, rfl, hne, hwords, _, rfl⟩, _, _,
      ⟨call, rfl, hcall⟩, name, _, ⟨rfl, hname⟩, opening, inner, ⟨rfl, hopening⟩, list, _, hlist,
      closing, _, ⟨rfl, hclosing⟩, semicolon, rest, ⟨rfl, hsemicolon⟩, h⟩
    cases rest with
    | nil =>
      -- nothing is left over, so the record is the one that was read
      cases h
      exact ⟨start, words, call, name, opening, inner, closing, semicolon, rfl, hstart, hne,
        hwords, hcall, hname, hopening, hlist, hclosing, hsemicolon, rfl, rfl, rfl⟩
    | cons extra rest => contradiction
  · rintro ⟨start, words, call, name, opening, inner, closing, semicolon, rfl, hstart, hne,
      hwords, hcall, hname, hopening, hlist, hclosing, hsemicolon, hpname, hptype, hpline⟩
    refine ⟨(), _, ⟨start, rfl, hstart⟩, _, _, ⟨words, rfl, hne, hwords, ?_, rfl⟩, (), _,
      ⟨call, rfl, hcall⟩, name, _, ⟨rfl, hname⟩, opening, inner, ⟨rfl, hopening⟩, _, _, hlist,
      closing, _, ⟨rfl, hclosing⟩, semicolon, [], ⟨rfl, hsemicolon⟩, ?_⟩
    · -- the return type ends in front of the second marker, which was not checked yet
      rintro next ⟨⟩
      exact hcall
    · rw [← hpname, ← hptype, ← hpline]
      rfl

end VulkanGen.Declaration
