import VulkanGen.Text.Blank

/-!
# Places

A part of a text is found by the byte at which it starts, and a text may itself start at
any byte, as it does where it is the rest of a longer one.

* `StandsAt`                where a part of a text stands
* `standsAt_append_iff`     a place in the rest of a text
* `StandsAt.behind_unique`  a place says what is behind it
* `BlankAt`, `blankAt_append_iff`  which bytes are those of blanks
-/

namespace VulkanGen.Text

/-- How many bytes characters take. -/
def bytes (cs : List Char) : Nat :=
  (String.ofList cs).utf8ByteSize

/-- A part of a text that starts at byte `offset`: it starts at byte `i`, and `behind`
is the rest of the text. -/
def StandsAt (offset : Nat) (cs : List Char) (i : Nat) (part behind : List Char) : Prop :=
  ∃ before, cs = before ++ part ++ behind ∧ i = offset + bytes before

/-- Byte `b` of a text belongs to a blank. -/
def BlankAt (offset : Nat) (cs : List Char) (b : Nat) : Prop :=
  ∃ i c behind, StandsAt offset cs i [c] behind ∧ isBlank c = true ∧ i ≤ b ∧ b < i + c.utf8Size

variable {offset i b : Nat} {as cs part behind : List Char}

@[simp] theorem bytes_nil : bytes [] = 0 := rfl

@[simp] theorem bytes_append (as bs : List Char) : bytes (as ++ bs) = bytes as + bytes bs := by
  rw [bytes, String.ofList_append, String.utf8ByteSize_append, bytes, bytes]

@[simp] theorem bytes_cons (c : Char) (cs : List Char) :
    bytes (c :: cs) = c.utf8Size + bytes cs := by
  rw [bytes, String.ofList_cons, String.utf8ByteSize_append, String.utf8ByteSize_singleton, bytes]

theorem bytes_toList (text : String) : bytes text.toList = text.utf8ByteSize := by
  rw [bytes, String.ofList_toList]

theorem bytes_eq_zero_iff : bytes cs = 0 ↔ cs = [] := by
  cases cs with
  | nil => simp
  | cons c cs =>
    have hpos := c.utf8Size_pos
    simp only [bytes_cons, reduceCtorEq, iff_false]
    omega

/-! ## Places -/

/-- A part at the start of a text is its front. -/
theorem standsAt_start_iff : StandsAt offset cs offset part behind ↔ cs = part ++ behind := by
  constructor
  · rintro ⟨before, rfl, h⟩
    obtain rfl : before = [] := bytes_eq_zero_iff.mp (by omega)
    rfl
  · rintro rfl
    exact ⟨[], rfl, rfl⟩

theorem StandsAt.le (h : StandsAt offset cs i part behind) : offset ≤ i := by
  obtain ⟨before, _, rfl⟩ := h
  exact Nat.le_add_right _ _

theorem StandsAt.add_bytes (h : StandsAt offset cs i part behind) :
    i + bytes part + bytes behind = offset + bytes cs := by
  obtain ⟨before, rfl, rfl⟩ := h
  simp only [bytes_append]
  omega

/-- What stands behind the front of a text stands in its rest. -/
theorem standsAt_append_iff (h : offset + bytes as ≤ i) :
    StandsAt offset (as ++ cs) i part behind ↔
      StandsAt (offset + bytes as) cs i part behind := by
  constructor
  · rintro ⟨before, heq, rfl⟩
    rw [List.append_assoc, List.append_eq_append_iff] at heq
    rcases heq with ⟨middle, rfl, heq⟩ | ⟨middle, rfl, heq⟩
    · exact ⟨middle, by rw [heq, List.append_assoc], by simp only [bytes_append]; omega⟩
    · -- the front would reach into the part, but the part starts behind it
      obtain rfl : middle = [] := bytes_eq_zero_iff.mp (by simp only [bytes_append] at h; omega)
      exact ⟨[], by simpa using heq.symm, by simp⟩
  · rintro ⟨before, rfl, rfl⟩
    exact ⟨as ++ before, by simp, by simp only [bytes_append]; omega⟩

/-- What stands in the front of a text has the rest of the text behind it, too. -/
theorem StandsAt.append (h : StandsAt offset as i part behind) (cs : List Char) :
    StandsAt offset (as ++ cs) i part (behind ++ cs) := by
  obtain ⟨before, rfl, rfl⟩ := h
  exact ⟨before, by simp, rfl⟩

/-- What is behind a part depends on its place only. -/
theorem StandsAt.behind_unique {other : List Char} (h : StandsAt offset cs i part behind)
    (hother : StandsAt offset cs i part other) : behind = other := by
  obtain ⟨before, rfl, rfl⟩ := h
  have hle : offset + bytes before ≤ offset + bytes before := Nat.le_refl _
  rw [List.append_assoc, standsAt_append_iff hle, standsAt_start_iff] at hother
  exact List.append_cancel_left hother

/-! ## Bytes of blanks -/

@[simp] theorem not_blankAt_nil : ¬BlankAt offset [] b := by
  rintro ⟨i, c, behind, ⟨before, heq, _⟩, _⟩
  simp at heq

/-- The bytes of blanks, character by character. -/
theorem blankAt_cons_iff {c : Char} :
    BlankAt offset (c :: cs) b ↔
      isBlank c = true ∧ offset ≤ b ∧ b < offset + c.utf8Size ∨
        BlankAt (offset + c.utf8Size) cs b := by
  constructor
  · rintro ⟨i, d, behind, ⟨before, heq, rfl⟩, hd, hle, hlt⟩
    cases before with
    | nil =>
      cases heq
      exact .inl ⟨hd, by simpa using hle, by simpa using hlt⟩
    | cons _ before =>
      cases heq
      refine .inr ⟨_, d, behind, ⟨before, rfl, ?_⟩, hd, hle, hlt⟩
      simp only [bytes_cons]
      omega
  · rintro (⟨hc, hle, hlt⟩ | ⟨i, d, behind, ⟨before, rfl, rfl⟩, hd, hle, hlt⟩)
    · exact ⟨offset, c, cs, standsAt_start_iff.mpr rfl, hc, hle, hlt⟩
    · refine ⟨_, d, behind, ⟨c :: before, rfl, ?_⟩, hd, hle, hlt⟩
      simp only [bytes_cons]
      omega

/-- The bytes of blanks in the front and in the rest of a text. -/
theorem blankAt_append_iff :
    BlankAt offset (as ++ cs) b ↔ BlankAt offset as b ∨ BlankAt (offset + bytes as) cs b := by
  induction as generalizing offset with
  | nil => simp
  | cons a as ih =>
    rw [List.cons_append, blankAt_cons_iff, blankAt_cons_iff, ih, bytes_cons, Nat.add_assoc,
      or_assoc]

theorem BlankAt.bounds (h : BlankAt offset cs b) : offset ≤ b ∧ b < offset + bytes cs := by
  obtain ⟨i, c, behind, hstands, _, hle, hlt⟩ := h
  have hstart := hstands.le
  have hstop := hstands.add_bytes
  simp only [bytes_cons, bytes_nil] at hstop
  omega

/-- A text without blanks has no bytes of blanks. -/
theorem not_blankAt (h : ∀ c ∈ cs, isBlank c = false) : ¬BlankAt offset cs b := by
  rintro ⟨i, c, behind, ⟨before, rfl, _⟩, hc, _⟩
  exact absurd (h c (by simp)) (by simp [hc])

end VulkanGen.Text
