import VulkanGen.Proofs.Artifact.TableRoundTrip
import VulkanGen.Proofs.Layout.Breaking
import VulkanGen.Proofs.Layout.Listings
import VulkanGen.Proofs.Wrapper.Lines
import VulkanGen.Proofs.Wrapper.Signature

/-!
# How the parts of a wrapper are spelled

A prototype that was read has identifiers for names, and types of words, stars and spaces.
The rules make the parts of a wrapper from these, and add nothing that separates items,
breaks a line or opens a parenthesis.

## Key results

- `Prototype.spelled_of_ofSpan`: what is known of the texts in a prototype
- `properItem_render`, `properItem_of_isIdentifier`: parameters and arguments
- `Wrapper.name_subset`, `Wrapper.isSignatureChar_of_mem_returnType`: what stands in front of
  the parameters
-/

namespace VulkanGen

open Layout

variable {c : Char}

/-! ## Characters -/

/-- The characters of words can stand in a line of a listing. -/
theorem isInline_of_isWordPart (h : Token.isWordPart c = true) : isInline c = true := by
  -- columns are counted in bytes, and a character of a word is one byte
  have hbyte : c.utf8Size = 1 := by
    rw [Token.isWordPart_eq, Bool.or_eq_true, Token.isWordStart_iff, Token.isDigit_iff] at h
    have hsmall : c.toNat ≤ 127 := by omega
    exact Char.utf8Size_eq_one_iff.mpr (UInt32.le_iff_toNat_le.mpr hsmall)
  refine isInline_iff.mpr ⟨hbyte, ?_, ?_⟩
  · rintro rfl
    exact absurd h (by decide)
  · rintro rfl
    exact absurd h (by decide)

/-- The characters of words are no brackets. -/
private theorem not_bracket_of_isWordPart (h : Token.isWordPart c = true) :
    isBracket c = false := by
  rw [not_bracket_iff]
  refine ⟨?_, ?_, ?_, ?_, ?_, ?_⟩ <;> rintro rfl <;> exact absurd h (by decide)

/-- Whether a character can stand in a declared type. -/
def isTypeChar (c : Char) : Bool :=
  Token.isWordPart c || c == '*' || c == ' '

/-- The characters of words can stand in a type. -/
theorem isTypeChar_of_isWordPart (h : Token.isWordPart c = true) : isTypeChar c = true := by
  rw [isTypeChar, h]
  rfl

/-- Whether a character can stand in front of the parameters of a signature. -/
def isSignatureChar (c : Char) : Bool :=
  isInline c && c != '('

/-- The characters of a signature can stand in a line of a listing. -/
theorem isInline_of_isSignatureChar (h : isSignatureChar c = true) : isInline c = true :=
  (Bool.and_eq_true_iff.mp h).1

/-- A character of a type belongs to a word or is a star or a space. -/
private theorem cases_isTypeChar (h : isTypeChar c = true) :
    Token.isWordPart c = true ∨ c = '*' ∨ c = ' ' := by
  simpa only [isTypeChar, Bool.or_eq_true, beq_iff_eq, or_assoc] using h

/-- The characters of a type are no brackets. -/
private theorem not_bracket_of_isTypeChar (h : isTypeChar c = true) : isBracket c = false := by
  rcases cases_isTypeChar h with hword | rfl | rfl
  · exact not_bracket_of_isWordPart hword
  · decide
  · decide

/-- The characters of a type can stand in a signature. -/
theorem isSignatureChar_of_isTypeChar (h : isTypeChar c = true) : isSignatureChar c = true := by
  have hinline : isInline c = true := by
    rcases cases_isTypeChar h with hword | rfl | rfl
    · exact isInline_of_isWordPart hword
    · decide
    · decide
  have hparenthesis := (not_bracket_iff.mp (not_bracket_of_isTypeChar h)).1
  exact Bool.and_eq_true_iff.mpr ⟨hinline, bne_iff_ne.mpr hparenthesis⟩

/-- An identifier is made of the characters of words. -/
theorem isWordPart_of_isIdentifier {name : String} (h : isIdentifier name = true) :
    ∀ c ∈ name.toList, Token.isWordPart c = true := fun _ hc =>
  Bool.of_not_eq_false fun hno => not_mem_of_isIdentifier h hno hc

/-- A number is made of the characters of words. -/
private theorem isWordPart_of_isNumeral {digits : String} (h : isNumeral digits = true) :
    ∀ c ∈ digits.toList, Token.isWordPart c = true := by
  intro c hc
  have hdigit := List.all_eq_true.mp (Bool.and_eq_true_iff.mp h).2 c hc
  rw [Token.isWordPart_eq, hdigit, Bool.or_true]

/-- An identifier does not start with a space. -/
private theorem exists_cons_of_isIdentifier {name : String} (h : isIdentifier name = true) :
    ∃ c cs, name.toList = c :: cs ∧ c ≠ ' ' := by
  cases hname : name.toList with
  | nil => simp [isIdentifier, hname] at h
  | cons c cs =>
    refine ⟨c, cs, rfl, ?_⟩
    rintro rfl
    have hpart := isWordPart_of_isIdentifier h ' ' (hname ▸ List.mem_cons_self)
    exact absurd hpart (by decide)

/-! ## What was read -/

namespace TypeWord

/-- A part of a type has characters of a type, with the space in front of it too. -/
private theorem isTypeChar_of_mem_behind {w : TypeWord} (h : w.spelled = true) (hc : c ∈ w.behind) :
    isTypeChar c = true := by
  cases w with
  | word text =>
    rcases List.mem_cons.mp hc with rfl | htext
    · decide
    · exact isTypeChar_of_isWordPart (isWordPart_of_isIdentifier h c htext)
  | star =>
    rw [List.mem_singleton.mp hc]
    decide

/-- The characters of a type. -/
private theorem isTypeChar_of_mem_render {ws : List TypeWord} (h : ∀ w ∈ ws, w.spelled = true) :
    ∀ c ∈ (render ws).toList, isTypeChar c = true := by
  cases ws with
  | nil => exact fun c hc => absurd hc List.not_mem_nil
  | cons w ws =>
    -- without the space that keeps it apart, the first word is as it would be behind another
    have hbehind : ∀ c ∈ (render (w :: ws)).toList, c ∈ (w :: ws).flatMap behind := by
      intro c hc
      cases w with
      | word text =>
        rw [render, String.toList_ofList] at hc
        exact List.mem_cons_of_mem ' ' hc
      | star =>
        rw [render, String.toList_ofList] at hc
        exact hc
    intro c hc
    obtain ⟨v, hv, hc⟩ := List.mem_flatMap.mp (hbehind c hc)
    exact isTypeChar_of_mem_behind (h v hv) hc

/-- A type does not start with a space. -/
private theorem exists_cons_render {ws : List TypeWord} (h : ∀ w ∈ ws, w.spelled = true)
    (hne : ws ≠ []) :
    ∃ c cs, (render ws).toList = c :: cs ∧ c ≠ ' ' := by
  match ws, hne with
  | word text :: ws, _ =>
    obtain ⟨c, cs, htext, hc⟩ := exists_cons_of_isIdentifier (h _ List.mem_cons_self)
    exact ⟨c, cs ++ ws.flatMap behind, by rw [render, String.toList_ofList, htext]; rfl, hc⟩
  | star :: ws, _ =>
    exact ⟨'*', ws.flatMap behind, by rw [render, String.toList_ofList], by decide⟩

end TypeWord

/-- A parameter with an identifier for a name and with a type. -/
structure Parameter.Spelled (q : Parameter) : Prop where
  name : isIdentifier q.name = true
  type : ∀ c ∈ q.type.toList, isTypeChar c = true
  starts : ∃ c cs, q.type.toList = c :: cs ∧ c ≠ ' '

/-- A prototype with an identifier for a name and with types. -/
structure Prototype.Spelled (p : Prototype) : Prop where
  name : isIdentifier p.name = true
  returnType : ∀ c ∈ p.returnType.toList, isTypeChar c = true
  parameters : ∀ q ∈ p.parameters.toList, q.Spelled

/-- What is read is spelled so. -/
theorem Prototype.spelled_of_ofSpan {span : Span} {p : Prototype} (h : ofSpan span = .ok p) :
    p.Spelled := by
  obtain ⟨d, hgrammar, hspelled, hd⟩ := wellFormed_of_ofSpan h
  rw [← hd]
  refine ⟨hspelled.2.1, TypeWord.isTypeChar_of_mem_render hspelled.1, fun q hq => ?_⟩
  obtain ⟨f, hf, rfl⟩ := List.mem_map.mp hq
  obtain ⟨htype, hname, _⟩ := hspelled.2.2 f hf
  exact ⟨hname, TypeWord.isTypeChar_of_mem_render htype,
    TypeWord.exists_cons_render htype (hgrammar.2.2 f hf).1⟩

/-! ## Items of a listing -/

/-- A text without brackets leaves the depth as it is. -/
private theorem foldl_depthBehind_of_not_bracket {cs : List Char}
    (h : ∀ c ∈ cs, isBracket c = false) (depth : Nat) : cs.foldl depthBehind depth = depth := by
  induction cs with
  | nil => rfl
  | cons c cs ih =>
    rw [List.forall_mem_cons] at h
    rw [List.foldl_cons, depthBehind_of_not_bracket depth h.1, ih h.2]

/-- A text without brackets that does not start with a space. -/
private theorem properItem_of_cons {item : List Char} (hinline : ∀ c ∈ item, isInline c = true)
    (hbracket : ∀ c ∈ item, isBracket c = false)
    (hstarts : ∃ c cs, item = c :: cs ∧ c ≠ ' ') : ProperItem item := by
  obtain ⟨c, cs, rfl, hc⟩ := hstarts
  exact ⟨hinline, by simpa using hc, foldl_depthBehind_of_not_bracket hbracket 1⟩

/-- An argument that is called by its name. -/
theorem properItem_of_isIdentifier {name : String} (h : isIdentifier name = true) :
    ProperItem name.toList :=
  properItem_of_cons (fun c hc => isInline_of_isWordPart (isWordPart_of_isIdentifier h c hc))
    (fun c hc => not_bracket_of_isWordPart (isWordPart_of_isIdentifier h c hc))
    (exists_cons_of_isIdentifier h)

/-- A bracketed number behind an item is closed again. -/
private theorem properItem_append_extent {item : List Char} (h : ProperItem item) (hne : item ≠ [])
    {digits : List Char} (hdigits : ∀ c ∈ digits, Token.isWordPart c = true) :
    ProperItem (item ++ '[' :: (digits ++ [']'])) := by
  constructor
  · intro c hc
    simp only [List.mem_append, List.mem_cons, List.not_mem_nil, or_false] at hc
    rcases hc with hitem | rfl | hdigit | rfl
    · exact h.inline c hitem
    · decide
    · exact isInline_of_isWordPart (hdigits c hdigit)
    · decide
  · rw [List.head?_append_of_ne_nil _ hne]
    exact h.starts
  · -- the depth is 1 in front of the bracket, 2 at the number and 1 again behind it
    rw [List.foldl_append, h.closes, List.foldl_cons, List.foldl_append,
      foldl_depthBehind_of_not_bracket fun c hc => not_bracket_of_isWordPart (hdigits c hc)]
    rfl

/-- A parameter as it is declared. -/
theorem properItem_render {q : Parameter} (h : q.Spelled) : ProperItem q.render.toList := by
  have hword : ∀ c ∈ q.name.toList, isTypeChar c = true := fun c hc =>
    isTypeChar_of_isWordPart (isWordPart_of_isIdentifier h.name c hc)
  have hchars : ∀ c ∈ q.type.toList ++ ' ' :: q.name.toList, isTypeChar c = true := by
    rw [List.forall_mem_append, List.forall_mem_cons]
    exact ⟨h.type, by decide, hword⟩
  -- without the extent, the parameter has no brackets at all
  have hplain : ProperItem (q.type.toList ++ ' ' :: q.name.toList) := by
    obtain ⟨c, cs, htype, hc⟩ := h.starts
    exact properItem_of_cons
      (fun c hc => isInline_of_isSignatureChar (isSignatureChar_of_isTypeChar (hchars c hc)))
      (fun c hc => not_bracket_of_isTypeChar (hchars c hc))
      ⟨c, cs ++ ' ' :: q.name.toList, by rw [htype]; rfl, hc⟩
  cases hextent : q.extent with
  | none =>
    have hrender : q.render.toList = q.type.toList ++ ' ' :: q.name.toList := by
      simp [Parameter.render, hextent, toString_string]
    rwa [hrender]
  | some extent =>
    have hrender : q.render.toList = q.type.toList ++ ' ' :: q.name.toList ++
        '[' :: ((toString extent.size).toList ++ [']']) := by
      simp [Parameter.render, hextent, toString_string]
    rw [hrender]
    exact properItem_append_extent hplain (by simp) (isWordPart_of_isNumeral (isNumeral_toString _))

/-! ## Parts of a wrapper -/

/-- Cutting out only leaves characters out. -/
private theorem Text.cutOut_sublist (part : List Char) (skip : Nat) (cs : List Char) :
    (cutOut part skip cs).Sublist cs := by
  induction cs generalizing skip with
  | nil => exact List.Sublist.refl _
  | cons c cs ih =>
    -- `skip` counts the characters of a part that is being left out
    cases skip with
    | succ skip => exact (ih skip).cons c
    | zero =>
      -- `cutOut` unfolds to the test for the part, which the split is on
      show (if part.isPrefixOf (c :: cs) then cutOut part (part.length - 1) cs
        else c :: cutOut part 0 cs).Sublist (c :: cs)
      split
      · exact (ih _).cons c
      · exact (ih 0).cons_cons c

/-- Cutting something out of a text adds no characters. -/
private theorem Text.remove_sublist (part text : String) :
    (remove part text).toList.Sublist text.toList := by
  rw [remove]
  split
  · exact List.Sublist.refl _
  · rw [String.toList_ofList]
    exact cutOut_sublist _ _ _

/-- The public parameters are declared ones, in their order. -/
private theorem Prototype.publicParameters_sublist (config : Config) (p : Prototype) :
    (p.publicParameters config).Sublist p.parameters.toList := by
  -- leaving out the handle takes away one parameter at most
  have hhandle : ∀ b qs, (withoutHandle config b qs).Sublist qs := by
    intro b qs
    rw [withoutHandle]
    split
    · exact List.eraseP_sublist
    · exact List.Sublist.refl _
  have hunbound : (p.unbound config).Sublist p.parameters.toList :=
    (hhandle _ _).trans (hhandle _ _)
  -- what the other rules take away stands at one end of the parameters left
  rw [publicParameters]
  split
  · exact (List.tail_sublist _).trans hunbound
  · split
    · exact ((List.dropLast_sublist _).trans (List.dropLast_sublist _)).trans hunbound
    · exact hunbound

namespace Wrapper

variable {config : Config} {p : Prototype} {w : Wrapper}

/-- The name of a wrapper has no characters that the declared one has not. -/
theorem name_subset (h : ofPrototype config p = .ok w) : w.name.toList ⊆ p.name.toList := by
  -- a method is named by what is left of the declared name
  have hmethod : ∀ naming name, (methodName naming name).toList ⊆ name.toList := by
    intro naming name
    rw [methodName]
    split
    · refine List.Subset.trans (Text.remove_sublist _ _).subset ?_
      rw [String.toList_ofList]
      cases hstem : Text.stripPrefix? "vk".toList name.toList with
      | none => exact List.Subset.refl _
      | some stem =>
        rw [(Text.stripPrefix?_eq_some_iff _ _ _).mp hstem]
        exact List.subset_append_right _ _
    · exact (Text.remove_sublist _ _).subset
  obtain ⟨binding, _, rfl⟩ := (ofPrototype_eq_ok_iff config p w).mp h
  -- only a method of the recorder is called otherwise than declared
  rcases shape_cases config p binding with hrecords | ⟨elementType, hqueries⟩ | hforwards
  · rw [hrecords.name]
    exact hmethod _ _
  · rw [hqueries.name]
    exact List.Subset.refl _
  · rw [hforwards.name]
    exact List.Subset.refl _

/-- The parameters of a wrapper are declared ones. -/
theorem parameters_subset (h : ofPrototype config p = .ok w) :
    w.parameters.toList ⊆ p.parameters.toList := by
  rw [parameters_of_ofPrototype h]
  exact (p.publicParameters_sublist config).subset

/-- The element type of a count query is a declared type without its star. -/
private theorem mem_of_countQuery? {naming : Naming} {ps : ParameterList} {elementType : String}
    (h : countQuery? naming ps = some elementType) :
    ∃ q ∈ ps.toList, elementType = .ofList q.type.toList.dropLast := by
  simp only [countQuery?, bind, Option.bind_eq_some_iff] at h
  obtain ⟨count, _, elements, helements, hguard⟩ := h
  have htype := (Option.ite_none_right_eq_some.mp hguard).2
  have hlast := (ps.getAt?_neg 1 (-1) (by decide) Nat.one_pos elements helements).2
  exact ⟨elements, List.mem_of_getElem? hlast, (Option.some.inj htype).symm⟩

/-- A return type keeps its characters when it is rendered. -/
private theorem isSignatureChar_of_mem_render {type : String}
    (h : ∀ c ∈ type.toList, isSignatureChar c = true) :
    ∀ c ∈ ((WrappedReturn.normalize type).render {}).toList, isSignatureChar c = true := by
  rw [WrappedReturn.normalize]
  -- the fixed spellings of a return type are checked, any other one is kept between fixed parts
  split
  · exact List.all_eq_true.mp (by decide +kernel)
  · split
    · exact List.all_eq_true.mp (by decide +kernel)
    · split
      · exact List.all_eq_true.mp (by decide +kernel)
      · simp only [WrappedReturn.render, toString_string, String.toList_append,
          List.forall_mem_append]
        exact ⟨⟨⟨List.all_eq_true.mp (by decide +kernel), List.all_eq_true.mp (by decide)⟩, h⟩,
          List.all_eq_true.mp (by decide)⟩

/-- The characters of the type that a wrapper returns. -/
theorem isSignatureChar_of_mem_returnType {maxWidth : Nat} {rules : Rules}
    (h : ofPrototype ⟨maxWidth, {}, rules⟩ p = .ok w) (hp : p.Spelled) :
    ∀ c ∈ (w.returnType.render {}).toList, isSignatureChar c = true := by
  have hdeclared : ∀ c ∈ p.returnType.toList, isSignatureChar c = true := fun c hc =>
    isSignatureChar_of_isTypeChar (hp.returnType c hc)
  obtain ⟨binding, hbinding, rfl⟩ := (ofPrototype_eq_ok_iff _ p w).mp h
  rcases shape_cases ⟨maxWidth, {}, rules⟩ p binding with
    hrecords | ⟨elementType, hqueries⟩ | hforwards
  · rw [hrecords.returnType]
    exact isSignatureChar_of_mem_render hdeclared
  · rw [hqueries.returnType]
    apply isSignatureChar_of_mem_render
    -- the pair is among the parameters that the handle leaves, and these are declared
    obtain ⟨q, hq, rfl⟩ := mem_of_countQuery? hqueries.pair
    have hmem : q ∈ p.parameters.toList := by
      rw [bindHandle_eq] at hq
      split at hq
      · exact hq
      · exact (List.eraseIdx_sublist _ _).subset hq
    have hdropped : ∀ c ∈ q.type.toList.dropLast, isSignatureChar c = true := fun c hc =>
      isSignatureChar_of_isTypeChar ((hp.parameters q hmem).type c (List.dropLast_subset _ hc))
    simp only [toString_string, String.toList_append, String.toList_ofList,
      List.forall_mem_append]
    exact ⟨⟨List.all_eq_true.mp (by decide +kernel), hdropped⟩, List.all_eq_true.mp (by decide)⟩
  · rw [hforwards.returnType]
    exact isSignatureChar_of_mem_render hdeclared

/-- The arguments of a call are identifiers. -/
theorem isIdentifier_of_mem_arguments {maxWidth : Nat} {rules : Rules}
    (h : ofPrototype ⟨maxWidth, {}, rules⟩ p = .ok w) (hp : p.Spelled) :
    ∀ a ∈ w.arguments, isIdentifier a = true := by
  intro a ha
  obtain ⟨i, hi⟩ := List.mem_iff_getElem?.mp ha
  -- an argument is a declared name, a bound handle or the field of the recorder
  rcases argument_cases h hi with hname | ⟨b, _, rfl⟩ | ⟨_, rfl⟩
  · obtain ⟨q, hq, rfl⟩ := List.mem_map.mp (List.mem_of_getElem? hname)
    exact (hp.parameters q hq).name
  · have hvariables : isIdentifier "device_" = true ∧ isIdentifier "instance_" = true := by decide
    cases b with
    | device => exact hvariables.1
    | inst => exact hvariables.2
  · have hfield : isIdentifier "_command_buffer" = true := by decide
    exact hfield

end Wrapper

end VulkanGen
