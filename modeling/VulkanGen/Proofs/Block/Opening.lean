import VulkanGen.Catalog
import VulkanGen.Proofs.Declaration.Spans

/-!
# Lines that open a block

A `#define` line is its macro's name and its value, with one space in front of each.  The
name is a word, so it ends where the value starts, and neither can be lost when blanks are
trimmed.  The line of a catalog that opens a block is of this form, and it is read as the
block that it was printed for.

## Key results

- `Block.define?_append`: the name and the value of a macro are read back
- `BlockOpening.ofDefine?_line`: so is the block that a line opens
- `BlockOpening.not_opensSpan_line`: such a line starts no declaration
-/

namespace VulkanGen

namespace Text

/-- Nothing is dropped from a text that starts with no blank. -/
private theorem dropBlank_eq_self {cs : List Char} (h : ∀ c ∈ cs.head?, isBlank c = false) :
    dropBlank cs = cs := by
  cases cs with
  | nil => rfl
  | cons c cs => exact dropBlank_cons_of_not_blank cs (h c rfl)

/-- A text without blanks at its ends is not trimmed. -/
theorem trim_eq_self {cs : List Char} (hfirst : ∀ c ∈ cs.head?, isBlank c = false)
    (hlast : ∀ c ∈ cs.getLast?, isBlank c = false) : trim cs = cs := by
  have hreverse : dropBlank cs.reverse = cs.reverse := by
    apply dropBlank_eq_self
    rw [List.head?_reverse]
    exact hlast
  unfold trim dropBlankEnd
  rw [dropBlank_eq_self hfirst, hreverse, List.reverse_reverse]

end Text

namespace Block

/-- The name and the value of a macro are read back: the name is a word, and the value has
no blanks at its ends. -/
theorem define?_append {name value : List Char} (hne : name ≠ [])
    (hname : ∀ c ∈ name, Text.isBlank c = false)
    (hfirst : ∀ c ∈ value.head?, Text.isBlank c = false)
    (hlast : ∀ c ∈ value.getLast?, Text.isBlank c = false) :
    define? ("#define".toList ++ ' ' :: (name ++ ' ' :: value)) = some (name, value) := by
  have hspace : Text.isBlank ' ' = true := by simp [Text.isBlank]
  have hstrip : Text.stripPrefix? "#define".toList
      ("#define".toList ++ ' ' :: (name ++ ' ' :: value)) = some (' ' :: (name ++ ' ' :: value)) :=
    (Text.stripPrefix?_eq_some_iff _ _ _).mpr rfl
  -- one space stands in front of the name, which starts with no blank
  have hdrop : Text.dropBlank (' ' :: (name ++ ' ' :: value)) = name ++ ' ' :: value := by
    show Text.dropBlank ([' '] ++ (name ++ ' ' :: value)) = _
    rw [Text.dropBlank_append_of_blank _ (by simp [hspace])]
    apply Text.dropBlank_eq_self
    intro c hc
    cases name with
    | nil => exact absurd rfl hne
    | cons first name =>
      obtain rfl := Option.some.inj hc
      exact hname first List.mem_cons_self
  -- the name ends at the space behind it, as it holds no blank itself
  have hword : ∀ c ∈ name, (!Text.isBlank c) = true := by
    intro c hc
    rw [hname c hc, Bool.not_false]
  have hstop : ∀ c ∈ (' ' :: value).head?, (!Text.isBlank c) = false := by
    intro c hc
    obtain rfl := Option.some.inj hc
    rw [hspace, Bool.not_true]
  have htake := Text.takeWhile_append_of_stop hword hstop
  have hrest := Text.dropWhile_append_of_stop hword hstop
  -- what is left is the value with the space in front of it
  have htrim : Text.trim (' ' :: value) = value := by
    have hblank : ∀ c ∈ [' '], Text.isBlank c = true := by simp [hspace]
    have hvalue : Text.dropBlank (' ' :: value) = Text.dropBlank value :=
      Text.dropBlank_append_of_blank value hblank
    unfold Text.trim
    rw [hvalue]
    exact Text.trim_eq_self hfirst hlast
  simp only [define?, hstrip, Option.bind_eq_bind, Option.bind_some, List.head?_cons, hspace,
    if_true, hdrop, htake, hrest, htrim]
  rfl

end Block

namespace BlockOpening

/-- Whether an opening is valid can be decided, case by case. -/
instance (o : BlockOpening) : Decidable o.Valid :=
  match o with
  | core _ => inferInstanceAs (Decidable (_ = true))
  | extension _ _ => inferInstanceAs (Decidable (_ ∧ _ ∧ _ ∧ _ ∧ _))

/-- The macro whose line opens a block. -/
def macroName : BlockOpening → List Char
  | core version => Block.versionPrefix.toList ++ version.toList
  | extension stem _ => stem.toList ++ Block.extensionSuffix.toList

/-- The value of that macro. -/
def value : BlockOpening → List Char
  | core _ => ['1']
  | extension _ name => '"' :: (name.toList ++ ['"'])

/-- The line of an opening defines its macro. -/
private theorem toList_line (o : BlockOpening) :
    o.line.toList = "#define".toList ++ ' ' :: (o.macroName ++ ' ' :: o.value) := by
  cases o with
  | core version =>
    show ("#define " ++ Block.versionPrefix ++ version ++ " 1").toList = _
    simp [macroName, value]
  | extension stem name =>
    show ("#define " ++ stem ++ Block.extensionSuffix ++ " \"" ++ name ++ "\"").toList = _
    simp [macroName, value]

/-- The value of the macro starts with no blank. -/
private theorem not_blank_first_value (o : BlockOpening) :
    ∀ c ∈ o.value.head?, Text.isBlank c = false := by
  cases o <;> simp [value, Text.isBlank]

/-- The value of the macro ends in no blank. -/
theorem not_blank_last_value (o : BlockOpening) :
    ∀ c ∈ o.value.getLast?, Text.isBlank c = false := by
  cases o <;> simp [value, List.getLast?_cons, Text.isBlank]

/-- The line of an opening ends like the value of its macro. -/
theorem last_line (o : BlockOpening) : o.line.toList.getLast? = o.value.getLast? := by
  rw [toList_line]
  cases o <;> simp [value, List.getLast?_append, List.getLast?_cons]

/-- The line that opens a block has no blanks at its ends. -/
private theorem trim_line (o : BlockOpening) : Text.trim o.line.toList = o.line.toList := by
  have hfirst : "#define".toList.head? = some '#' := by decide
  apply Text.trim_eq_self
  · rw [toList_line, List.head?_append, hfirst, Option.some_or]
    simp [Text.isBlank]
  · rw [last_line]
    exact o.not_blank_last_value

/-- A macro's name is a word. -/
private theorem not_blank_macroName {o : BlockOpening} (h : o.Valid) :
    ∀ c ∈ o.macroName, Text.isBlank c = false := by
  -- a blank would end an identifier
  have hword : ∀ c, Token.isWordPart c = true → Text.isBlank c = false := by
    intro c hc
    rw [Bool.eq_false_iff]
    intro hblank
    have hstops := Token.goesOn_of_blank .identifier hblank
    exact absurd (hstops.symm.trans hc) Bool.false_ne_true
  cases o with
  -- the macro of a version has digits and underscores behind its prefix; that of an extension may
  -- be any text without blanks
  | core version =>
    have hversion := List.all_eq_true.mp (Bool.and_eq_true_iff.mp h).2
    have hprefix : Block.versionPrefix.toList.all Token.isWordPart = true := by decide
    intro c hc
    apply hword
    rcases List.mem_append.mp hc with hc | hc
    · exact List.all_eq_true.mp hprefix c hc
    · have hdigit := hversion c hc
      rw [Token.isWordPart, Char.isAlphanum, Bool.or_assoc, hdigit, Bool.or_true]
  | extension stem name =>
    have hsuffix : Block.extensionSuffix.toList.all Token.isWordPart = true := by decide
    intro c hc
    rcases List.mem_append.mp hc with hc | hc
    · simpa using List.all_eq_true.mp h.1 c hc
    · exact hword c (List.all_eq_true.mp hsuffix c hc)

/-- The macro of an opening is read as the kind of its block. -/
private theorem ofMacro?_line {o : BlockOpening} (h : o.Valid) :
    Block.Kind.ofMacro? o.macroName o.value = some o.kind := by
  cases o with
  | core version =>
    have hstrip : Text.stripPrefix? Block.versionPrefix.toList (core version).macroName =
        some version.toList := (Text.stripPrefix?_eq_some_iff _ _ _).mpr rfl
    have hversion : Block.isVersion version.toList = true := h
    simp [Block.Kind.ofMacro?, hstrip, hversion, value, kind, String.ofList_toList]
  | extension stem name =>
    obtain ⟨_, hprefix, hquote, _, _⟩ := h
    -- the macro is not taken for that of a version
    have hstrip : Text.stripPrefix? Block.versionPrefix.toList (extension stem name).macroName =
        none := by
      rw [String.toList_append] at hprefix
      unfold Text.stripPrefix?
      rw [if_neg]
      exact fun hp => hprefix (List.isPrefixOf_iff_prefix.mp hp)
    -- so it is read by its suffix
    have hsuffix : Block.extensionSuffix.toList.isSuffixOf (extension stem name).macroName =
        true := List.isSuffixOf_iff_suffix.mpr (List.suffix_append _ _)
    -- the name ends at the quote behind it, as it holds none itself
    have hname : ∀ c ∈ name.toList, decide (c ≠ '"') = true := by
      intro c hc
      exact decide_eq_true fun hcq => hquote (hcq ▸ hc)
    have htake : (name.toList ++ ['"']).takeWhile (· ≠ '"') = name.toList :=
      Text.takeWhile_append_of_stop hname (by simp)
    have hquoted : Block.quoted? (extension stem name).value = some name.toList := by
      simp only [value, Block.quoted?, htake]
      simp
    simp [Block.Kind.ofMacro?, hstrip, hsuffix, hquoted, kind, String.ofList_toList]

/-- The line that opens a block is read as one that does. -/
theorem ofDefine?_line {o : BlockOpening} (h : o.Valid) :
    Block.Kind.ofDefine? (Text.trim o.line.toList) = some o.kind := by
  have hname : o.macroName ≠ [] := by
    cases o <;> simp [macroName, Block.versionPrefix, Block.extensionSuffix]
  have hdefine := Block.define?_append hname (not_blank_macroName h) o.not_blank_first_value
    o.not_blank_last_value
  rw [trim_line, toList_line]
  simp only [Block.Kind.ofDefine?, hdefine]
  exact ofMacro?_line h

/-- The line that opens a block starts no declaration. -/
theorem not_opensSpan_line {o : BlockOpening} (h : o.Valid) :
    opensSpan o.line.toList = false := by
  cases o with
  | extension stem name => exact Bool.eq_false_iff.mpr h.2.2.2.2
  | core version =>
    rw [Bool.eq_false_iff]
    intro hopens
    -- the line of a version is made of other letters than the markers
    have hmem : 'P' ∈ (core version).line.toList :=
      ((opensSpan_iff _).mp hopens).1.subset (by decide)
    have hversion := List.all_eq_true.mp (Bool.and_eq_true_iff.mp h).2 'P'
    rw [toList_line] at hmem
    simp [macroName, value, Block.versionPrefix] at hmem
    exact absurd (hversion hmem) (by decide)

/-- The line of an opening is one line. -/
theorem not_break_line {o : BlockOpening} (h : o.Valid) : '\n' ∉ o.line.toList := by
  -- a line break would be a blank of the name
  have hname : '\n' ∉ o.macroName := by
    intro hmem
    have := not_blank_macroName h _ hmem
    exact absurd Token.isBlank_lineFeed (by simp [this])
  have hvalue : '\n' ∉ o.value := by
    cases o with
    | core version => simp [value]
    | extension stem name => simp [value, h.2.2.2.1]
  rw [toList_line]
  simp [hname, hvalue]

end BlockOpening

end VulkanGen
