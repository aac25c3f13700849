import VulkanGen.Layout.Listing
import VulkanGen.Proofs.Layout.Wrapping
import VulkanGen.Proofs.List.Basic

/-!
# How listings are wrapped

Wrapping a proper listing puts each of its items on a line, as the only commas that are
directly in its parenthesis are those between its items.  Joining the breaks gives the
listing on one line back, whatever the width was.

## Key results

- `Listing.replicate_append_wrapAt`: wrapping lays a listing out
- `Listing.wrapParameters_text`: so does wrapping at the first parenthesis
- `wrapsLines_written`: lines that are written are wrapped one by one
- `joinBreaks_codeText`: joined lines of code are those without a limit
-/

namespace VulkanGen.Layout

variable {c : Char} {cs rest : List Char} {indent maxWidth : Nat}

/-- A character can stand in a line if it is one byte, no comma and no line break. -/
theorem isInline_iff : isInline c = true ↔ c.utf8Size = 1 ∧ c ≠ ',' ∧ c ≠ '\n' := by
  simp [isInline, and_assoc]

/-- A text of such characters has no commas. -/
private theorem ne_comma_of_isInline (h : ∀ c ∈ cs, isInline c = true) : ∀ c ∈ cs, c ≠ ',' :=
  fun c hc => (isInline_iff.mp (h c hc)).2.1

/-- A fixed line is checked character by character. -/
theorem CodeLine.proper_plain (h : cs.all isInline = true) : (plain cs).Proper :=
  List.all_eq_true.mp h

/-- A text of such characters has as many bytes as characters. -/
private theorem utf8ByteSize_of_one_byte (h : ∀ c ∈ cs, c.utf8Size = 1) :
    (String.ofList cs).utf8ByteSize = cs.length := by
  induction cs with
  | nil => rfl
  | cons c cs ih =>
    rw [List.forall_mem_cons] at h
    rw [String.ofList_cons, String.utf8ByteSize_append, String.utf8ByteSize_singleton, h.1,
      ih h.2, List.length_cons, Nat.add_comm]

/-! ## Breaking behind the commas of a list -/

/-- Nothing is broken in a text that has no commas. -/
private theorem breakCommas_append_of_no_comma (indent depth : Nat) (h : ∀ c ∈ cs, c ≠ ',')
    (rest : List Char) :
    breakCommas indent depth (cs ++ rest) =
      cs ++ breakCommas indent (cs.foldl depthBehind depth) rest := by
  induction cs generalizing depth with
  | nil => rfl
  | cons c cs ih =>
    rw [List.forall_mem_cons] at h
    rw [List.cons_append, breakCommas_cons_other indent depth _ (.inl h.1), ih _ h.2]
    rfl

/-- So does a text without commas by itself. -/
private theorem breakCommas_of_no_comma (indent depth : Nat) (h : ∀ c ∈ cs, c ≠ ',') :
    breakCommas indent depth cs = cs := by
  have happend := breakCommas_append_of_no_comma indent depth h []
  rwa [breakCommas_nil, List.append_nil] at happend

/-- Spaces are dropped up to what does not start with one. -/
private theorem dropWhile_space_append (n : Nat) (h : cs.head? ≠ some ' ') :
    (List.replicate n ' ' ++ cs).dropWhile (· == ' ') = cs := by
  rw [List.dropWhile_append_of_pos fun c hc => beq_of_eq (List.eq_of_mem_replicate hc)]
  cases cs with
  | nil => rfl
  | cons c cs =>
    have hc : ¬(c == ' ') = true := by simpa using h
    exact List.dropWhile_cons_of_neg hc

/-- What does not start with a space goes on like that. -/
private theorem head?_append_ne (hcs : cs.head? ≠ some c) (hrest : rest.head? ≠ some c) :
    (cs ++ rest).head? ≠ some c := by
  rw [List.head?_append]
  cases hhead : cs.head? with
  | none => rwa [Option.none_or]
  | some d => rwa [Option.some_or, ← hhead]

namespace Listing

variable {l : Listing} {items : List (List Char)}

/-- A comma that separates items is followed by a break in place of its space. -/
private theorem breakCommas_comma_append (indent : Nat) (hrest : rest.head? ≠ some ' ') :
    breakCommas indent 1 (comma ++ rest) = commaBreak indent ++ breakCommas indent 1 rest := by
  have hdrop : (' ' :: rest).dropWhile (· == ' ') = rest := dropWhile_space_append 1 hrest
  rw [comma, List.cons_append, List.singleton_append, breakCommas_cons_comma, hdrop]
  rfl

/-- What follows an item on one line is another one or the end of the list, and no space. -/
private theorem head?_flatMap_comma (hrest : rest.head? ≠ some ' ') :
    (items.flatMap (comma ++ ·) ++ rest).head? ≠ some ' ' := by
  cases items with
  | nil => exact hrest
  | cons item items => simp [comma]

/-- Every comma between items is followed by a break. -/
private theorem breakCommas_flatMap_comma (h : ∀ item ∈ items, ProperItem item)
    (hrest : rest.head? ≠ some ' ') :
    breakCommas indent 1 (items.flatMap (comma ++ ·) ++ rest) =
      items.flatMap (commaBreak indent ++ ·) ++ breakCommas indent 1 rest := by
  induction items with
  | nil => rfl
  | cons item items ih =>
    rw [List.forall_mem_cons] at h
    -- an item that started with a space would lose it to the break in front of it
    have hgoes : (item ++ (items.flatMap (comma ++ ·) ++ rest)).head? ≠ some ' ' :=
      head?_append_ne h.1.starts (head?_flatMap_comma hrest)
    simp only [List.flatMap_cons, List.append_assoc]
    -- behind an item that is passed over, the depth is the same
    rw [breakCommas_comma_append indent hgoes,
      breakCommas_append_of_no_comma indent 1 (ne_comma_of_isInline h.1.inline), h.1.closes,
      ih h.2]

/-- The list of a proper listing is broken behind each of its items. -/
private theorem breakCommas_listed (indent : Nat) (h : l.Proper) :
    breakCommas indent 1 (l.listed comma) = l.listed (commaBreak indent) := by
  have hending : breakCommas indent 1 (')' :: l.ending) = ')' :: l.ending := by
    rw [breakCommas_cons_other indent 1 _ (.inl (by decide)),
      breakCommas_of_no_comma _ _ (ne_comma_of_isInline h.ending)]
  have hproper := h.items
  rw [listed, listed]
  -- an item holds no commas, so only those between items are at depth 1
  cases hitems : l.items with
  | nil => simpa using hending
  | cons first items =>
    rw [hitems, List.forall_mem_cons] at hproper
    rw [List.intercalate_cons_eq, List.intercalate_cons_eq, List.append_assoc, List.append_assoc,
      breakCommas_append_of_no_comma indent 1 (ne_comma_of_isInline hproper.1.inline),
      hproper.1.closes, breakCommas_flatMap_comma hproper.2 (by simp), hending]

/-! ## Wrapping -/

/-- A proper listing has as many bytes as characters. -/
private theorem utf8ByteSize_text (h : l.Proper) :
    (String.ofList l.text).utf8ByteSize = l.text.length := by
  apply utf8ByteSize_of_one_byte
  have hone : ∀ {cs : List Char}, (∀ c ∈ cs, isInline c = true) → ∀ c ∈ cs, c.utf8Size = 1 :=
    fun h c hc => (isInline_iff.mp (h c hc)).1
  -- a listing is put together from its opening, its items and its ending
  intro c hc
  simp only [text, textWith, listed, List.mem_append, List.mem_cons] at hc
  rcases hc with hopening | rfl | hlisted | rfl | hending
  · exact hone h.opening c hopening
  · decide
  · rcases List.mem_intercalate hlisted with hcomma | ⟨item, hitem, hc⟩
    · simp only [comma, List.mem_cons, List.not_mem_nil, or_false] at hcomma
      rcases hcomma with rfl | rfl <;> decide
    · exact hone (h.items item hitem).inline c hc
  · decide
  · exact hone h.ending c hending

/-- What stands between items does not matter where there is only one. -/
private theorem textWith_eq_of_length_lt (h : l.items.length < 2)
    (separator separator' : List Char) :
    l.textWith separator = l.textWith separator' := by
  rw [textWith, textWith, listed, listed]
  match l.items, h with
  | [], _ => simp
  | [item], _ => simp

/-- Wrapping a proper listing lays it out. -/
theorem replicate_append_wrapAt (maxWidth : Nat) (h : l.Proper) :
    List.replicate l.column ' ' ++ (wrapAt l.opening (l.listed comma) l.column maxWidth).toList =
      l.laid maxWidth := by
  have hopening : (String.ofList l.opening).utf8ByteSize = l.opening.length :=
    utf8ByteSize_of_one_byte fun c hc => (isInline_iff.mp (h.opening c hc)).1
  -- widths are measured in bytes, and a proper listing has one for each character
  have hfits : fits (.ofList l.text) l.column maxWidth = true ↔
      maxWidth = 0 ∨ l.column + l.text.length ≤ maxWidth := by
    rw [fits, utf8ByteSize_text h, Bool.or_eq_true, beq_iff_eq, decide_eq_true_iff]
  have htext : l.opening ++ '(' :: l.listed comma = l.text := rfl
  rw [laid, List.append_right_inj, wrapAt, htext]
  by_cases hwhole : maxWidth = 0 ∨ l.column + l.text.length ≤ maxWidth
  · -- a listing that fits is not wrapped
    have hstays : l.StaysWhole maxWidth := hwhole.imp_right .inl
    rw [if_pos (hfits.mpr hwhole), if_pos hstays, String.toList_ofList]
  · rw [if_neg (hfits.not.mpr hwhole), String.toList_ofList, breakCommas_listed _ h, hopening]
    -- a listing of one item has nothing to break
    by_cases hitems : l.items.length < 2
    · have hstays : l.StaysWhole maxWidth := .inr (.inr hitems)
      rw [if_pos hstays]
      exact textWith_eq_of_length_lt hitems _ _
    · have hbreaks : ¬l.StaysWhole maxWidth := fun hstays =>
        hwhole ((or_assoc.mpr hstays).resolve_right hitems)
      rw [if_neg hbreaks]
      rfl

/-- Wrapping at the first parenthesis does the same, if that is the parenthesis of the list. -/
theorem wrapParameters_text (maxWidth : Nat) (h : l.Proper) (hfirst : '(' ∉ l.opening) :
    List.replicate l.column ' ' ++
        (wrapParameters (.ofList l.text) l.column maxWidth).toList = l.laid maxWidth := by
  rw [← replicate_append_wrapAt maxWidth h, text, textWith, wrapParameters_eq_wrapAt hfirst]

end Listing

/-- A line of code as it is written: a listing is wrapped at the parenthesis of its list. -/
def CodeLine.written (maxWidth : Nat) : CodeLine → List Char
  | plain text => text
  | listing l => List.replicate l.column ' ' ++
      (wrapAt l.opening (l.listed Listing.comma) l.column maxWidth).toList

/-- A proper line is laid out. -/
theorem CodeLine.written_eq_laid (maxWidth : Nat) {line : CodeLine} (h : line.Proper) :
    line.written maxWidth = line.laid maxWidth := by
  cases line with
  | plain text => rfl
  | listing l => exact Listing.replicate_append_wrapAt maxWidth h

/-! ## Lines that are wrapped -/

/-- Whether a text consists of lines of code, each wrapped by itself and ended by a line
break. -/
inductive WrapsLines : List CodeLine → List Char → Prop
  | nil : WrapsLines [] []
  | cons {line : CodeLine} {lines : List CodeLine} {text rest : List Char}
      (h : Wraps (line.laid 0) text) (hs : WrapsLines lines rest) :
      WrapsLines (line :: lines) (text ++ '\n' :: rest)

/-- Without a limit, a listing is on one line. -/
theorem Listing.laid_zero (l : Listing) : l.laid 0 = List.replicate l.column ' ' ++ l.text := by
  have hwhole : l.StaysWhole 0 := .inl rfl
  rw [laid, if_pos hwhole]

/-- A listing that is wrapped somewhere is wrapped behind its column. -/
theorem Listing.wraps_laid {l : Listing} {text : List Char} (h : Wraps l.text text) :
    Wraps (l.laid 0) (List.replicate l.column ' ' ++ text) := by
  rw [laid_zero]
  exact h.append_left _

/-- A line that is written is wrapped by itself. -/
theorem CodeLine.wraps_written (maxWidth : Nat) (line : CodeLine) :
    Wraps (line.laid 0) (line.written maxWidth) := by
  cases line with
  | plain text => exact .refl text
  | listing l => exact Listing.wraps_laid (wraps_wrapAt _ _ _ _)

/-- Lines that are written are wrapped one by one. -/
theorem wrapsLines_written (maxWidth : Nat) (lines : List CodeLine) {back : List CodeLine}
    {text : List Char} (h : WrapsLines back text) :
    WrapsLines (lines ++ back)
      (lines.flatMap (fun line => line.written maxWidth ++ ['\n']) ++ text) := by
  induction lines with
  | nil => exact h
  | cons line lines ih =>
    have hcons := WrapsLines.cons (line.wraps_written maxWidth) ih
    rw [List.flatMap_cons, List.append_assoc, List.append_assoc]
    exact hcons

/-! ## Joining the lines -/

/-- Joining passes over what is no comma. -/
private theorem joinBreaks_cons_of_ne (h : c ≠ ',') : joinBreaks
    (c :: cs) = c :: joinBreaks cs := by
  cases cs with
  | nil => rw [joinBreaks, joinBreaks]
  | cons d cs =>
    rw [joinBreaks, if_neg]
    simp [h]

/-- It passes over a text without commas. -/
private theorem joinBreaks_append_of_no_comma (h : ∀ c ∈ cs, c ≠ ',') (rest : List Char) :
    joinBreaks (cs ++ rest) = cs ++ joinBreaks rest := by
  induction cs with
  | nil => rfl
  | cons c cs ih =>
    rw [List.forall_mem_cons] at h
    rw [List.cons_append, joinBreaks_cons_of_ne h.1, ih h.2, List.cons_append]

/-- A comma without a break stays as it is. -/
private theorem joinBreaks_comma (rest : List Char) :
    joinBreaks (Listing.comma ++ rest) = Listing.comma ++ joinBreaks rest := by
  show joinBreaks (',' :: ' ' :: rest) = _
  rw [joinBreaks, if_neg (by simp), joinBreaks_cons_of_ne (by decide)]
  rfl

/-- A break with its indentation becomes one space. -/
private theorem joinBreaks_commaBreak (indent : Nat) (h : rest.head? ≠ some ' ') :
    joinBreaks (Listing.commaBreak indent ++ rest) = Listing.comma ++ joinBreaks rest := by
  simp only [Listing.commaBreak, List.cons_append]
  rw [joinBreaks, if_pos (by decide), dropWhile_space_append indent h]
  rfl

namespace Listing

variable {l : Listing} {items : List (List Char)} {separator : List Char}

/-- Whether joining makes a comma and a space of what stands between items. -/
def Joins (separator : List Char) : Prop :=
  ∀ rest : List Char, rest.head? ≠ some ' ' →
    joinBreaks (separator ++ rest) = comma ++ joinBreaks rest

/-- What keeps items apart on one line is such a separator. -/
private theorem joins_comma : Joins comma := fun rest _ => joinBreaks_comma rest

/-- What keeps them apart on several lines is one, too. -/
private theorem joins_commaBreak (indent : Nat) : Joins (commaBreak indent) := fun _ hrest =>
  joinBreaks_commaBreak indent hrest

/-- However the items are kept apart, they are joined to one line. -/
private theorem joinBreaks_flatMap (hjoins : Joins separator)
    (hseparator : separator.head? = some ',')
    (h : ∀ item ∈ items, ProperItem item) (hrest : rest.head? ≠ some ' ') :
    joinBreaks (items.flatMap (separator ++ ·) ++ rest) =
      items.flatMap (comma ++ ·) ++ joinBreaks rest := by
  induction items with
  | nil => rfl
  | cons item items ih =>
    rw [List.forall_mem_cons] at h
    -- joining drops the spaces behind a break, and the next item must not lose any
    have hgoes : (items.flatMap (separator ++ ·) ++ rest).head? ≠ some ' ' := by
      cases items with
      | nil => exact hrest
      | cons item items => simp [List.head?_append, hseparator]
    rw [List.flatMap_cons, List.append_assoc, List.append_assoc,
      hjoins _ (head?_append_ne h.1.starts hgoes),
      joinBreaks_append_of_no_comma (ne_comma_of_isInline h.1.inline), ih h.2]
    simp

/-- However the items of a listing are kept apart, it is joined to one line. -/
private theorem joinBreaks_textWith (hjoins : Joins separator)
    (hseparator : separator.head? = some ',') (h : l.Proper) (rest : List Char) :
    joinBreaks (l.textWith separator ++ rest) = l.text ++ joinBreaks rest := by
  have hparenthesis : ∀ {c : Char}, c = '(' ∨ c = ')' → c ≠ ',' := by
    rintro c (rfl | rfl) <;> decide
  have hending : joinBreaks (')' :: (l.ending ++ rest)) = ')' :: (l.ending ++ joinBreaks rest) := by
    rw [joinBreaks_cons_of_ne (hparenthesis (.inr rfl)),
      joinBreaks_append_of_no_comma (ne_comma_of_isInline h.ending)]
  have hproper := h.items
  -- only what stands between the items can change
  simp only [textWith, text, listed, List.append_assoc, List.cons_append]
  rw [joinBreaks_append_of_no_comma (ne_comma_of_isInline h.opening),
    joinBreaks_cons_of_ne (hparenthesis (.inl rfl)), List.append_cancel_left_eq, List.cons.injEq]
  refine ⟨rfl, ?_⟩
  -- without items there is no separator; with them the first one has none in front
  cases hitems : l.items with
  | nil => simpa using hending
  | cons first items =>
    rw [hitems, List.forall_mem_cons] at hproper
    rw [List.intercalate_cons_eq, List.intercalate_cons_eq, List.append_assoc, List.append_assoc,
      joinBreaks_append_of_no_comma (ne_comma_of_isInline hproper.1.inline),
      joinBreaks_flatMap hjoins hseparator hproper.2 (by simp), hending]

/-- A listing that is joined is on one line, as it is without a limit. -/
theorem joinBreaks_laid (maxWidth : Nat) (h : l.Proper) (rest : List Char) :
    joinBreaks (l.laid maxWidth ++ rest) = l.laid 0 ++ joinBreaks rest := by
  have hspaces : ∀ c ∈ List.replicate l.column ' ', c ≠ ',' := by
    intro c hc
    rw [List.eq_of_mem_replicate hc]
    decide
  have hzero : l.StaysWhole 0 := .inl rfl
  rw [laid, laid, if_pos hzero, List.append_assoc, List.append_assoc,
    joinBreaks_append_of_no_comma hspaces, List.append_cancel_left_eq]
  -- items are kept apart by spaces or by breaks, and joining makes the same of both
  split
  · exact joinBreaks_textWith joins_comma rfl h rest
  · exact joinBreaks_textWith (joins_commaBreak _) rfl h rest

end Listing

/-- Joined lines of code are those without a limit. -/
theorem joinBreaks_codeText (maxWidth : Nat) {lines : List CodeLine}
    (h : ∀ line ∈ lines, line.Proper) :
    joinBreaks (codeText maxWidth lines) = codeText 0 lines := by
  induction lines with
  | nil =>
    show joinBreaks [] = []
    rw [joinBreaks]
  | cons line lines ih =>
    rw [List.forall_mem_cons] at h
    -- the break at the end of a line stands behind no comma, so it stays
    have hbreak : joinBreaks ('\n' :: codeText maxWidth lines) = '\n' :: codeText 0 lines := by
      rw [joinBreaks_cons_of_ne (by decide), ih h.2]
    rw [codeText_cons, codeText_cons]
    cases line with
    | plain text =>
      have hinline : ∀ c ∈ text, isInline c = true := h.1
      rw [CodeLine.laid, CodeLine.laid,
        joinBreaks_append_of_no_comma (ne_comma_of_isInline hinline), hbreak]
    | listing l => rw [CodeLine.laid, CodeLine.laid, Listing.joinBreaks_laid maxWidth h.1, hbreak]

end VulkanGen.Layout
