import VulkanGen.Proofs.Token.Lexemes
import VulkanGen.Token.Split

/-!
# The tokens of a text are its only split

The scanner goes through a text once, from one offset to the next.  What it reads is
described without it as a split of the text, and a text has at most one: the blanks say
where spans are, the first byte outside them is where a token starts, and form and
maximality say where that token ends.  So what is left of a split behind its first token
is a split of the rest of the text, and the scanner finds it.

A text has tokens exactly if all its characters are lexical; otherwise the scanner stops
at the first one that is not.

## Key results

- `Token.tokensFrom_eq_ok_iff`: what the scanner finds is the split
- `Token.tokensFrom_eq_error_iff`: the scanner stops at the first stray character
- `Token.tokenize_exact`: the tokens of a text
-/

namespace VulkanGen.Token

variable {offset : Nat} {as cs : List Char} {t : Token} {ts us tokens : List Token}

/-! ## Forms -/

/-- A punctuation lexeme is spelled if its text is the mark. -/
private theorem spelled_iff_toList_eq (l : Lexeme) {c : Char} (hc : l.kind.mark? = some c) :
    (∃ d, l.kind.mark? = some d ∧ l.text.toList = [d]) ↔ l.spelled = true := by
  rw [spelled_iff_eq_mark hc]
  obtain ⟨kind, text⟩ := l
  simp only [Lexeme.mark, Lexeme.mk.injEq, true_and] at hc ⊢
  simp only [hc, Option.some.injEq, exists_eq_left', Option.toList_some]
  rw [← String.toList_inj, String.toList_ofList]

/-- A token has the form of its kind if its lexeme is spelled. -/
private theorem hasForm_iff_spelled : t.HasForm ↔ t.lexeme.spelled = true := by
  obtain ⟨kind, text, start⟩ := t
  cases kind with
  | identifier => exact Bool.eq_iff_iff.mp (spelled_word text).symm
  | integer => exact Bool.eq_iff_iff.mp (spelled_number text).symm
  | star | leftParen | rightParen | leftBracket | rightBracket | comma | semicolon =>
    exact spelled_iff_toList_eq ⟨_, text⟩ rfl

/-- A token of its form, character by character. -/
private theorem hasForm_iff :
    t.HasForm ↔ ∃ c cs, t.text.toList = c :: cs ∧ Kind.ofFirst? c = some t.kind ∧
      ∀ d ∈ cs, t.kind.goesOn d = true :=
  hasForm_iff_spelled.trans (spelled_iff t.lexeme)

/-- What does not make a word longer. -/
private theorem goesOn_eq_false_iff {kind : Kind} {c : Char} :
    kind.goesOn c = false ↔
      (kind = .identifier → isWordPart c = false) ∧ (kind = .integer → c.isDigit = false) := by
  cases kind <;> simp [Kind.goesOn]

/-- A token ends behind the bytes of its text. -/
private theorem stop_eq (t : Token) : t.stop = t.start + Text.bytes t.text.toList := by
  rw [stop, Text.bytes_toList]

/-- A byte in front of a token is none of its bytes. -/
private theorem not_spans_of_lt_start {b : Nat} (h : b < t.start) : ¬t.Spans b :=
  fun hspans => Nat.not_le.mpr h hspans.1

/-- A byte behind a token is none of its bytes. -/
private theorem not_spans_of_stop_le {b : Nat} (h : t.stop ≤ b) : ¬t.Spans b :=
  fun hspans => Nat.not_lt.mpr h hspans.2

/-! ## Splits of a text in two parts -/

namespace Split

/-- No token starts in front of the text. -/
private theorem le_start (h : Split offset cs tokens) : ∀ t ∈ tokens, offset ≤ t.start := by
  intro t ht
  obtain ⟨_, hstands⟩ := h.stands t ht
  exact hstands.le

/-- No token ends behind the text. -/
theorem stop_le (h : Split offset cs tokens) : ∀ t ∈ tokens, t.stop ≤ offset + Text.bytes cs := by
  intro t ht
  obtain ⟨_, hstands⟩ := h.stands t ht
  have hadd := hstands.add_bytes
  rw [stop_eq]
  omega

/-- No token has a byte of a blank. -/
private theorem not_spans (h : Split offset cs tokens) {b : Nat} (hb : Text.BlankAt offset cs b) :
    ∀ t ∈ tokens, ¬t.Spans b :=
  ((h.outside b).mp hb).2.2

/-- What the kind of a token goes on with does not follow it. -/
private theorem goesOn_of_stands (h : Split offset cs tokens) (ht : t ∈ tokens) {behind : List Char}
    (hstands : Text.StandsAt offset cs t.start t.text.toList behind) :
    ∀ c ∈ behind.head?, t.kind.goesOn c = false :=
  fun c hc => goesOn_eq_false_iff.mpr (h.maximal t ht behind hstands c hc)

/-- In a front and a rest together, the blanks are the bytes that no token of either spans. -/
private theorem outside_append (hts : Split offset as ts)
    (hus : Split (offset + Text.bytes as) cs us) (b : Nat) :
    Text.BlankAt offset (as ++ cs) b ↔
      offset ≤ b ∧ b < offset + Text.bytes (as ++ cs) ∧ ∀ t ∈ ts ++ us, ¬t.Spans b := by
  rw [Text.blankAt_append_iff, hts.outside, hus.outside, List.forall_mem_append,
    Text.bytes_append]
  -- the tokens of the other part span no byte of this one
  by_cases hb : b < offset + Text.bytes as
  · have hother : ∀ u ∈ us, ¬u.Spans b := fun u hu =>
      not_spans_of_lt_start (Nat.lt_of_lt_of_le hb (hus.le_start u hu))
    constructor
    · rintro (⟨hle, _, hnone⟩ | ⟨hle, _⟩)
      · exact ⟨hle, by omega, hnone, hother⟩
      · exact absurd hle (by omega)
    · rintro ⟨hle, _, hnone, _⟩
      exact .inl ⟨hle, hb, hnone⟩
  · have hother : ∀ t ∈ ts, ¬t.Spans b := fun t ht =>
      not_spans_of_stop_le (Nat.le_trans (hts.stop_le t ht) (Nat.not_lt.mp hb))
    constructor
    · rintro (⟨_, hlt, _⟩ | ⟨hle, hlt, hnone⟩)
      · exact absurd hlt hb
      · exact ⟨by omega, by omega, hother, hnone⟩
    · rintro ⟨_, hlt, _, hnone⟩
      exact .inr ⟨by omega, by omega, hnone⟩

/-- Splits of the front and of the rest are a split of the text, if no token at the end of
the front goes on with the rest. -/
theorem append (hts : Split offset as ts) (hus : Split (offset + Text.bytes as) cs us)
    (hends : ∀ t ∈ ts, t.stop = offset + Text.bytes as →
      ∀ c ∈ cs.head?, t.kind.goesOn c = false) :
    Split offset (as ++ cs) (ts ++ us) where
  stands := by
    rw [List.forall_mem_append]
    constructor
    · intro t ht
      obtain ⟨behind, hstands⟩ := hts.stands t ht
      exact ⟨behind ++ cs, hstands.append cs⟩
    · intro u hu
      obtain ⟨behind, hstands⟩ := hus.stands u hu
      exact ⟨behind, (Text.standsAt_append_iff hstands.le).mpr hstands⟩
  nonempty := List.forall_mem_append.mpr ⟨hts.nonempty, hus.nonempty⟩
  ascending := List.pairwise_append.mpr ⟨hts.ascending, hus.ascending,
    fun t ht u hu => Nat.le_trans (hts.stop_le t ht) (hus.le_start u hu)⟩
  outside := outside_append hts hus
  formed := List.forall_mem_append.mpr ⟨hts.formed, hus.formed⟩
  maximal := by
    rw [List.forall_mem_append]
    constructor
    · intro t ht behind' hstands' c hc
      obtain ⟨behind, hstands⟩ := hts.stands t ht
      obtain rfl := hstands'.behind_unique (hstands.append cs)
      rw [← goesOn_eq_false_iff]
      cases behind with
      | nil =>
        -- the token ends the front, so the rest is what follows it
        have hstop := hstands.add_bytes
        exact hends t ht (by simpa [stop_eq] using hstop) c hc
      -- otherwise the token is followed by what followed it in the front
      | cons d behind => exact hts.goesOn_of_stands ht hstands c hc
    · intro u hu behind hstands
      exact hus.maximal u hu behind ((Text.standsAt_append_iff (hus.le_start u hu)).mp hstands)

/-- The tokens behind the front of a text are a split of the rest, if the others stay in
the front. -/
theorem of_append (h : Split offset (as ++ cs) (ts ++ us))
    (hts : ∀ t ∈ ts, t.stop ≤ offset + Text.bytes as)
    (hus : ∀ u ∈ us, offset + Text.bytes as ≤ u.start) :
    Split (offset + Text.bytes as) cs us where
  stands u hu := by
    obtain ⟨behind, hstands⟩ := h.stands u (List.mem_append_right ts hu)
    exact ⟨behind, (Text.standsAt_append_iff (hus u hu)).mp hstands⟩
  nonempty u hu := h.nonempty u (List.mem_append_right ts hu)
  ascending := (List.pairwise_append.mp h.ascending).2.1
  outside b := by
    -- bytes of the rest are counted from the start of the whole
    have houtside := h.outside b
    rw [Text.blankAt_append_iff, List.forall_mem_append, Text.bytes_append] at houtside
    constructor
    · intro hblank
      obtain ⟨hle, hlt⟩ := hblank.bounds
      exact ⟨hle, hlt, (houtside.mp (.inr hblank)).2.2.2⟩
    · rintro ⟨hle, hlt, hnone⟩
      have hfront : ∀ t ∈ ts, ¬t.Spans b := fun t ht =>
        not_spans_of_stop_le (Nat.le_trans (hts t ht) hle)
      -- a blank at this byte is one of the rest, since the front ends before it
      rcases houtside.mpr ⟨by omega, by omega, hfront, hnone⟩ with hblank | hblank
      · exact absurd hblank.bounds.2 (by omega)
      · exact hblank
  formed u hu := h.formed u (List.mem_append_right ts hu)
  maximal u hu behind hstands :=
    h.maximal u (List.mem_append_right ts hu) behind
      ((Text.standsAt_append_iff (hus u hu)).mpr hstands)

/-- A text that consists of one token. -/
theorem singleton (ht : t.HasForm) : Split t.start t.text.toList [t] where
  stands := by
    simp only [List.mem_singleton, forall_eq]
    exact ⟨[], Text.standsAt_start_iff.mpr (by simp)⟩
  nonempty := by
    simp only [List.mem_singleton, forall_eq]
    obtain ⟨c, cs, htext, _⟩ := hasForm_iff.mp ht
    have hpos := c.utf8Size_pos
    rw [stop_eq, htext, Text.bytes_cons]
    omega
  ascending := List.pairwise_singleton _ t
  -- a token has no blanks, and it spans all bytes of its text
  outside b := by
    have hspelled := hasForm_iff_spelled.mp ht
    refine iff_of_false (Text.not_blankAt fun c => not_blank_of_mem_spelled hspelled) ?_
    rintro ⟨hle, hlt, hnone⟩
    exact hnone t (List.mem_singleton_self t) ⟨hle, by rwa [stop_eq]⟩
  formed := by
    simp only [List.mem_singleton, forall_eq]
    exact ht
  maximal := by
    simp only [List.mem_singleton, forall_eq]
    intro behind hstands
    obtain rfl : behind = [] := by simpa using Text.standsAt_start_iff.mp hstands
    simp

/-- A blank is a text without tokens. -/
theorem blank (offset : Nat) {c : Char} (hc : Text.isBlank c = true) :
    Split offset [c] [] where
  stands := by simp
  nonempty := by simp
  ascending := .nil
  outside b := by simp [Text.blankAt_cons_iff, hc]
  formed := by simp
  maximal := by simp

/-- Where a text starts with no blank, a token starts. -/
private theorem exists_start_eq {c : Char} (h : Split offset (c :: cs) tokens)
    (hc : Text.isBlank c = false) : ∃ t ∈ tokens, t.start = offset := by
  have hpos := c.utf8Size_pos
  have hblank : ¬Text.BlankAt offset (c :: cs) offset := by
    rw [Text.blankAt_cons_iff]
    rintro (⟨hblank, _⟩ | hblank)
    · exact absurd hblank (by simp [hc])
    · exact absurd hblank.bounds.1 (by omega)
  -- so a token spans the first byte, and no token starts in front of it
  have hspanned : ¬∀ t ∈ tokens, ¬t.Spans offset := fun hnone =>
    hblank ((h.outside offset).mpr ⟨Nat.le_refl _, by simp only [Text.bytes_cons]; omega, hnone⟩)
  simp only [Classical.not_forall, Classical.not_not] at hspanned
  obtain ⟨t, ht, hspans⟩ := hspanned
  exact ⟨t, ht, Nat.le_antisymm hspans.1 (h.le_start t ht)⟩

/-- The token that starts where the text does is listed first. -/
private theorem eq_head_of_start_eq {u : Token} (h : Split offset cs (u :: tokens))
    (ht : t ∈ u :: tokens) (hstart : t.start = offset) : t = u := by
  rcases List.mem_cons.mp ht with rfl | ht
  · rfl
  · -- a token in front of it would have to end where the text starts
    have hstop := List.rel_of_pairwise_cons h.ascending ht
    have hlt := h.nonempty u List.mem_cons_self
    have hle := h.le_start u List.mem_cons_self
    omega

/-- Where a text starts with no blank, its first token starts, and it ends where its kind
does not go on. -/
private theorem exists_first {c : Char} (h : Split offset (c :: cs) tokens)
    (hc : Text.isBlank c = false) :
    ∃ t later behind, tokens = t :: later ∧ t.start = offset ∧
      c :: cs = t.text.toList ++ behind ∧ t.HasForm ∧
        ∀ d ∈ behind.head?, t.kind.goesOn d = false := by
  obtain ⟨t, ht, hstart⟩ := h.exists_start_eq hc
  obtain ⟨behind, hstands⟩ := h.stands t ht
  have hends := h.goesOn_of_stands ht hstands
  rw [hstart, Text.standsAt_start_iff] at hstands
  cases tokens with
  | nil => exact nomatch ht
  | cons u later =>
    -- tokens are listed by their starts, so the one that starts first is the head
    obtain rfl := h.eq_head_of_start_eq ht hstart
    exact ⟨t, later, behind, rfl, hstart, hstands, h.formed t List.mem_cons_self, hends⟩

/-- A split that starts with a token goes on with a split of the rest. -/
private theorem cons_iff (ht : t.HasForm) (hends : ∀ c ∈ cs.head?, t.kind.goesOn c = false) :
    Split t.start (t.text.toList ++ cs) (t :: tokens) ↔ Split t.stop cs tokens := by
  constructor
  · intro h
    -- the token is the front of the text, and the other tokens stand behind it
    have hfront : Split t.start (t.text.toList ++ cs) ([t] ++ tokens) := h
    rw [stop_eq]
    refine hfront.of_append ?_ fun u hu => ?_
    · simp [stop_eq]
    · rw [← stop_eq]
      exact List.rel_of_pairwise_cons h.ascending hu
  · intro h
    rw [stop_eq] at h
    exact (singleton ht).append h (by simpa using fun _ => hends)

end Split

/-! ## One step -/

/-- The empty text has no tokens. -/
private theorem split_nil_iff : Split offset [] tokens ↔ tokens = [] := by
  constructor
  · intro h
    rw [List.eq_nil_iff_forall_not_mem]
    intro t ht
    have hstart := h.le_start t ht
    have hstop := h.stop_le t ht
    -- a token has a byte, and the empty text has none
    have hlt := h.nonempty t ht
    rw [Text.bytes_nil] at hstop
    omega
  · rintro rfl
    refine ⟨by simp, by simp, .nil, fun b => iff_of_false Text.not_blankAt_nil ?_, by simp,
      by simp⟩
    rintro ⟨hle, hlt, _⟩
    exact absurd hlt (by simpa using hle)

/-- A blank in front of a text only moves its tokens on. -/
private theorem split_blank_iff {c : Char} (hc : Text.isBlank c = true) :
    Split offset (c :: cs) tokens ↔ Split (offset + c.utf8Size) cs tokens := by
  have hbytes : Text.bytes [c] = c.utf8Size := by simp
  constructor
  · intro h
    have hfront : Split offset ([c] ++ cs) ([] ++ tokens) := h
    rw [← hbytes]
    refine hfront.of_append (by simp) fun t ht => ?_
    -- a token that starts within the blank would span a byte of it
    have hstart := h.le_start t ht
    have hlt := h.nonempty t ht
    rw [hbytes, ← Nat.not_lt]
    intro hwithin
    exact h.not_spans (Text.blankAt_cons_iff.mpr (.inl ⟨hc, hstart, hwithin⟩)) t ht
      ⟨Nat.le_refl _, hlt⟩
  · intro h
    rw [← hbytes] at h
    -- the blank is a part of its own, without tokens
    exact (Split.blank offset hc).append h (by simp)

/-- A text that starts with a stray character has no split. -/
private theorem not_split_stray {c : Char} (hb : Text.isBlank c = false)
    (hk : Kind.ofFirst? c = none) :
    ¬Split offset (c :: cs) tokens := by
  intro h
  obtain ⟨t, _, behind, _, _, htext, hform, _⟩ := h.exists_first hb
  obtain ⟨d, ds, hlist, hd, _⟩ := hasForm_iff.mp hform
  rw [hlist] at htext
  cases htext
  rw [hk] at hd
  exact nomatch hd

/-- The token that a text starts with is the longest one of its kind. -/
private theorem eq_longest_of_hasForm {c : Char} {kind : Kind} {behind : List Char} (ht : t.HasForm)
    (hends : ∀ d ∈ behind.head?, t.kind.goesOn d = false)
    (htext : c :: cs = t.text.toList ++ behind) (hk : Kind.ofFirst? c = some kind) :
    t = ⟨kind, .ofList (c :: cs.takeWhile kind.goesOn), t.start⟩ ∧
      behind = cs.dropWhile kind.goesOn := by
  obtain ⟨first, text, start⟩ := t
  obtain ⟨d, ds, hlist, hd, hds⟩ := hasForm_iff.mp ht
  simp only at hlist hd hds hends htext ⊢
  rw [hlist, List.cons_append] at htext
  cases htext
  -- the first character decides the kind, and then the kind decides the end
  obtain rfl : first = kind := Option.some.inj (hd.symm.trans hk)
  rw [Text.takeWhile_append_of_stop hds hends, Text.dropWhile_append_of_stop hds hends, ← hlist,
    String.ofList_toList]
  exact ⟨rfl, rfl⟩

/-- A split starts with the longest token, and goes on with a split of the rest. -/
private theorem split_first_iff {c : Char} {kind : Kind} (hk : Kind.ofFirst? c = some kind) :
    Split offset (c :: cs) tokens ↔
      ∃ later, tokens = ⟨kind, .ofList (c :: cs.takeWhile kind.goesOn), offset⟩ :: later ∧
        Split (offset + (String.ofList (c :: cs.takeWhile kind.goesOn)).utf8ByteSize)
          (cs.dropWhile kind.goesOn) later := by
  constructor
  · intro h
    obtain ⟨t, later, behind, rfl, rfl, htext, hform, hends⟩ :=
      h.exists_first (not_blank_of_ofFirst? hk)
    obtain ⟨ht, rfl⟩ := eq_longest_of_hasForm hform hends htext hk
    rw [htext, Split.cons_iff hform hends, stop, ht] at h
    exact ⟨later, by rw [← ht], h⟩
  · rintro ⟨later, rfl, hlater⟩
    have hrun : ∀ d ∈ cs.takeWhile kind.goesOn, kind.goesOn d = true :=
      List.all_eq_true.mp List.all_takeWhile
    -- the longest token has its form, and its kind does not go on behind it
    have hform : HasForm ⟨kind, .ofList (c :: cs.takeWhile kind.goesOn), offset⟩ :=
      hasForm_iff.mpr ⟨c, _, String.toList_ofList, hk, hrun⟩
    have hends : ∀ d ∈ (cs.dropWhile kind.goesOn).head?, kind.goesOn d = false := by
      intro d hd
      obtain ⟨ds, hds⟩ := List.head?_eq_some_iff.mp hd
      exact Text.not_of_dropWhile_eq_cons hds
    have hsplit := (Split.cons_iff hform hends).mpr hlater
    simpa using hsplit

/-- What the scanner finds in a text is the one split of it. -/
theorem tokensFrom_eq_ok_iff (offset : Nat) (cs : List Char) (tokens : List Token) :
    tokensFrom offset cs = .ok tokens ↔ Split offset cs tokens := by
  -- along the scan: each of its steps is a step of splits
  induction cs using scan_induction generalizing offset tokens with
  | nil => rw [tokensFrom_nil, split_nil_iff, Except.ok.injEq, eq_comm]
  | blank c cs hb ih => rw [tokensFrom_blank _ _ hb, split_blank_iff hb, ih]
  | stray c cs hb hk =>
    refine iff_of_false ?_ (not_split_stray hb hk)
    rw [tokensFrom]
    simp [hb, hk]
  | token c cs kind hb hk ih =>
    rw [tokensFrom_first _ _ hb hk, split_first_iff hk]
    simp only [← ih]
    cases tokensFrom _ _ with
    | error e => simp [Except.map]
    | ok later => simp [Except.map, eq_comm]

/-! ## Stray characters -/

/-- A lexical character is a blank or starts a token. -/
private theorem isLexical_iff {c : Char} :
    IsLexical c ↔ Text.isBlank c = true ∨ ∃ kind, Kind.ofFirst? c = some kind := by
  constructor
  · rintro (hblank | halpha | hdigit | hmark)
    · exact .inl hblank
    · exact .inr ⟨.identifier, (ofFirst?_eq_identifier_iff c).mpr (by simp [isWordStart, halpha])⟩
    · exact .inr ⟨.integer, (ofFirst?_eq_integer_iff c).mpr hdigit⟩
    · simp only [List.mem_cons, List.not_mem_nil, or_false] at hmark
      -- each mark is the first character of its own kind
      rcases hmark with rfl | rfl | rfl | rfl | rfl | rfl | rfl | rfl <;> exact .inr ⟨_, rfl⟩
  · rintro (hblank | ⟨kind, hk⟩)
    · exact .inl hblank
    · cases kind with
      | identifier =>
        rw [ofFirst?_eq_identifier_iff, isWordStart, Bool.or_eq_true, beq_iff_eq] at hk
        rcases hk with halpha | rfl
        · exact .inr (.inl halpha)
        · exact .inr (.inr (.inr (by simp)))
      | integer => exact .inr (.inr (.inl ((ofFirst?_eq_integer_iff c).mp hk)))
      -- a kind with a mark starts with the mark alone
      | star | leftParen | rightParen | leftBracket | rightBracket | comma | semicolon =>
        rw [ofFirst?_eq_mark_iff rfl] at hk
        subst hk
        exact .inr (.inr (.inr (by simp)))

/-- A character that is not lexical stops the scanner. -/
private theorem not_isLexical {c : Char} (hb : Text.isBlank c = false)
    (hk : Kind.ofFirst? c = none) :
    ¬IsLexical c := by
  simp [isLexical_iff, hb, hk]

/-- A token consists of lexical characters. -/
private theorem isLexical_of_goesOn {kind : Kind} {c : Char} (h : kind.goesOn c = true) :
    IsLexical c := by
  cases kind with
  | identifier =>
    simp only [Kind.goesOn, isWordPart, Char.isAlphanum, Bool.or_eq_true, beq_iff_eq] at h
    rcases h with (halpha | hdigit) | rfl
    · exact .inr (.inl halpha)
    · exact .inr (.inr (.inl hdigit))
    · exact .inr (.inr (.inr (by simp)))
  | integer => exact .inr (.inr (.inl h))
  | star | leftParen | rightParen | leftBracket | rightBracket | comma | semicolon =>
    exact absurd h Bool.false_ne_true

/-- The text of a token that a text starts with is lexical. -/
private theorem isLexical_of_longest {c : Char} {kind : Kind} (cs : List Char)
    (hk : Kind.ofFirst? c = some kind) : ∀ d ∈ c :: cs.takeWhile kind.goesOn, IsLexical d := by
  rw [List.forall_mem_cons]
  have hrun : ∀ d ∈ cs.takeWhile kind.goesOn, kind.goesOn d = true :=
    List.all_eq_true.mp List.all_takeWhile
  exact ⟨isLexical_iff.mpr (.inr ⟨kind, hk⟩), fun d hd => isLexical_of_goesOn (hrun d hd)⟩

/-- Lexical characters in front of a text only move its first stray character on. -/
private theorem isFirstStray_append_iff (h : ∀ a ∈ as, IsLexical a) (cs : List Char) (i : Nat)
    (c : Char) :
    IsFirstStray offset (as ++ cs) i c ↔ IsFirstStray (offset + Text.bytes as) cs i c := by
  constructor
  · rintro ⟨hc, before, behind, heq, rfl, hbefore⟩
    -- the stray character stands behind the lexical ones, as it is none of them
    rcases List.append_eq_append_iff.mp heq with ⟨middle, rfl, rfl⟩ | ⟨middle, rfl, hbehind⟩
    · exact ⟨hc, middle, behind, rfl, by simp only [Text.bytes_append]; omega,
        fun d hd => hbefore d (List.mem_append_right as hd)⟩
    · cases middle with
      | nil => exact ⟨hc, [], behind, hbehind.symm, by simp, by simp⟩
      | cons d middle =>
        cases hbehind
        exact absurd (h c (by simp)) hc
  · rintro ⟨hc, before, behind, rfl, rfl, hbefore⟩
    exact ⟨hc, as ++ before, behind, by simp, by simp only [Text.bytes_append]; omega,
      List.forall_mem_append.mpr ⟨h, hbefore⟩⟩

/-- A stray character at the start of a text is its first one. -/
private theorem isFirstStray_cons_iff {i : Nat} {c d : Char} (hc : ¬IsLexical c) :
    IsFirstStray offset (c :: cs) i d ↔ offset = i ∧ c = d := by
  constructor
  · rintro ⟨hd, before, behind, heq, rfl, hbefore⟩
    cases before with
    | nil =>
      cases heq
      exact ⟨rfl, rfl⟩
    | cons _ before =>
      cases heq
      exact absurd (hbefore c List.mem_cons_self) hc
  · rintro ⟨rfl, rfl⟩
    exact ⟨hc, [], cs, rfl, rfl, by simp⟩

/-- The scanner stops at the first stray character. -/
theorem tokensFrom_eq_error_iff (offset : Nat) (cs : List Char) (i : Nat) (c : Char) :
    tokensFrom offset cs = .error ⟨i, c⟩ ↔ IsFirstStray offset cs i c := by
  induction cs using scan_induction generalizing offset with
  | nil =>
    rw [tokensFrom_nil]
    refine iff_of_false (by simp) ?_
    rintro ⟨_, before, behind, heq, _⟩
    simp at heq
  | blank d cs hb ih =>
    have hblank : ∀ a ∈ [d], IsLexical a := by simp [isLexical_iff, hb]
    rw [tokensFrom_blank _ _ hb, ih, ← List.singleton_append, isFirstStray_append_iff hblank]
    simp
  | stray d cs hb hk =>
    -- the stray character is the first one, whatever follows
    rw [isFirstStray_cons_iff (not_isLexical hb hk), tokensFrom]
    simp [hb, hk]
  | token d cs kind hb hk ih =>
    -- the first token and what it goes on with are lexical, so they are passed over
    have hstray : IsFirstStray offset _ i c ↔ _ :=
      isFirstStray_append_iff (isLexical_of_longest cs hk) (cs.dropWhile kind.goesOn) i c
    rw [List.cons_append, List.takeWhile_append_dropWhile] at hstray
    rw [tokensFrom_first _ _ hb hk, hstray, Text.bytes, ← ih]
    cases tokensFrom _ _ <;> simp [Except.map]

/-- A text has tokens if all its characters are lexical. -/
private theorem exists_tokensFrom_iff (offset : Nat) (cs : List Char) :
    (∃ tokens, tokensFrom offset cs = .ok tokens) ↔ ∀ c ∈ cs, IsLexical c := by
  induction cs using scan_induction generalizing offset with
  | nil => simp
  | blank c cs hb ih =>
    have hc : IsLexical c := isLexical_iff.mpr (.inl hb)
    rw [tokensFrom_blank _ _ hb, ih, List.forall_mem_cons]
    exact (and_iff_right hc).symm
  | stray c cs hb hk =>
    -- a stray character is not lexical, and the scan stops there
    refine iff_of_false ?_ fun h => not_isLexical hb hk (h c List.mem_cons_self)
    rw [tokensFrom]
    simp [hb, hk]
  | token c cs kind hb hk ih =>
    -- a token takes lexical characters only, so what matters is the text behind it
    have htext : c :: cs = (c :: cs.takeWhile kind.goesOn) ++ cs.dropWhile kind.goesOn := by
      rw [List.cons_append, List.takeWhile_append_dropWhile]
    have hall : (∀ d ∈ c :: cs, IsLexical d) ↔ ∀ d ∈ cs.dropWhile kind.goesOn, IsLexical d := by
      rw [htext, List.forall_mem_append]
      exact and_iff_right (isLexical_of_longest cs hk)
    rw [tokensFrom_first _ _ hb hk, hall, ← ih]
    cases tokensFrom _ _ <;> simp [Except.map]

/-! ## Texts -/

/-- A text has tokens exactly if all its characters are lexical; otherwise the first one
that is not is reported, with its byte offset.  The tokens of a text are its split: each
is the text at its span and has the form of its kind, their spans follow each other and
leave out the blanks only, and no word is cut short.  A text has no other split. -/
theorem tokenize_exact (text : String) :
    ((∃ tokens, tokenize text = .ok tokens) ↔ ∀ c ∈ text.toList, IsLexical c) ∧
    (∀ i c, tokenize text = .error ⟨i, c⟩ ↔ IsFirstStray 0 text.toList i c) ∧
    (∀ tokens, tokenize text = .ok tokens ↔ Split 0 text.toList tokens) ∧
    ∀ tokens others, Split 0 text.toList tokens → Split 0 text.toList others →
      tokens = others := by
  refine ⟨exists_tokensFrom_iff 0 _, tokensFrom_eq_error_iff 0 _, tokensFrom_eq_ok_iff 0 _, ?_⟩
  intro tokens others h hother
  rw [← tokensFrom_eq_ok_iff] at h hother
  exact Except.ok.inj (h.symm.trans hother)

/-- A blank of two bytes parts a word from what follows; a number ends at a letter. -/
theorem tokenize_exact_wideBlank :
    Split 0 "a\u00A0*9x".toList
      [⟨.identifier, "a", 0⟩, ⟨.star, "*", 3⟩, ⟨.integer, "9", 4⟩, ⟨.identifier, "x", 5⟩] := by
  obtain ⟨_, _, hsplit, _⟩ := tokenize_exact "a\u00A0*9x"
  have heval : (tokenize "a\u00A0*9x").toOption = some
      [⟨.identifier, "a", 0⟩, ⟨.star, "*", 3⟩, ⟨.integer, "9", 4⟩, ⟨.identifier, "x", 5⟩] := by
    decide +kernel
  cases htokens : tokenize "a\u00A0*9x" with
  | error e =>
    rw [htokens] at heval
    exact nomatch heval
  | ok tokens =>
    rw [htokens] at heval
    cases heval
    exact (hsplit _).mp htokens

end VulkanGen.Token
