import VulkanGen.Proofs.Wrapper.Lines
import VulkanGen.Proofs.Wrapper.Spelling

/-!
# The width limit affects layout only

A wrapper's declaration is one listing.  Its definition is a sequence of lines of code, in
which the first part and each call are listings: the first part of its parameters, a call of
its arguments, so that the parenthesis of the table's accessor is in front of the list.  The
limit lays these listings out, one by one, and does nothing else.

## Key results

- `toList_declaration`, `toList_definition`: the code of a wrapper, line by line
- `proper_declarationListing`, `proper_definitionLines`: its lines are proper
- `width_affects_layout_only`: what a limit does to the code, and what it does not
-/

namespace VulkanGen.Wrapper

open Layout

/-! ## Its text -/

variable {config : Config} {w : Wrapper} {p : Prototype}

/-- The declaration is laid out. -/
theorem toList_declaration (h : (w.declarationListing config.naming).Proper)
    (hfirst : '(' ∉ (w.declarationListing config.naming).opening) :
    (w.declaration config).toList =
      (w.declarationListing config.naming).laid config.maxWidth := by
  rw [toList_declaration_eq]
  exact Listing.wrapParameters_text config.maxWidth h hfirst

/-- So is the first part of the definition. -/
private theorem toList_head (h : (w.headListing config.naming).Proper)
    (hfirst : '(' ∉ (w.headListing config.naming).opening) :
    (w.head config).toList = (w.headListing config.naming).laid config.maxWidth := by
  have hcolumn : (w.headListing config.naming).column = 0 := rfl
  have hlaid := Listing.wrapParameters_text config.maxWidth h hfirst
  rw [hcolumn, List.replicate_zero, List.nil_append] at hlaid
  rw [head_eq, hlaid]

/-- The definition is laid out line by line. -/
theorem toList_definition (h : ∀ line ∈ w.definitionLines config.naming, line.Proper)
    (hfirst : '(' ∉ (w.headListing config.naming).opening) :
    (w.definition config).toList = codeText config.maxWidth (w.definitionLines config.naming) := by
  rw [definitionLines] at h ⊢
  rw [List.forall_mem_cons, List.forall_mem_cons, List.forall_mem_append] at h
  -- only the first part is broken as one listing; in the body each line is by itself
  obtain ⟨hhead, _, hbody, _⟩ := h
  -- a statement with a call is wrapped from the column that the call starts at
  have hlines : (w.body config).toList = codeText config.maxWidth (w.bodyLines config.naming) := by
    rw [toList_body, codeText]
    exact List.flatMap_congr fun line hline =>
      congrArg (· ++ ['\n']) (line.written_eq_laid config.maxWidth (hbody line hline))
  rw [toList_definition_eq, toList_head hhead hfirst, hlines, codeText_cons, codeText_cons,
    codeText_append, codeText_cons, codeText_nil]
  rfl

/-! ## Its lines are proper -/

section Proper

variable {rules : Rules} {maxWidth : Nat}

/-- The name of a wrapper can stand in a signature. -/
private theorem isSignatureChar_of_mem_name (h : ofPrototype config p = .ok w) (hp : p.Spelled) :
    ∀ c ∈ w.name.toList, isSignatureChar c = true := fun c hc =>
  isSignatureChar_of_isTypeChar
    (isTypeChar_of_isWordPart (isWordPart_of_isIdentifier hp.name c (name_subset h hc)))

/-- The list of a signature is in its first parenthesis. -/
private theorem isSignatureChar_of_mem_opening (h : ofPrototype ⟨maxWidth, {}, rules⟩ p = .ok w)
    (hp : p.Spelled) {qualifier : String}
    (hqualifier : ∀ c ∈ qualifier.toList, isSignatureChar c = true) (column : Nat)
    (ending : String) :
    ∀ c ∈ (w.signatureListing {} column qualifier ending).opening, isSignatureChar c = true := by
  simp only [signatureListing, String.toList_append, List.forall_mem_append]
  exact ⟨⟨⟨isSignatureChar_of_mem_returnType h hp, List.all_eq_true.mp (by decide)⟩, hqualifier⟩,
    isSignatureChar_of_mem_name h hp⟩

/-- A signature is proper. -/
private theorem proper_signatureListing (h : ofPrototype ⟨maxWidth, {}, rules⟩ p = .ok w)
    (hp : p.Spelled) {qualifier ending : String}
    (hqualifier : ∀ c ∈ qualifier.toList, isSignatureChar c = true)
    (hending : ∀ c ∈ ending.toList, isInline c = true) (column : Nat) :
    (w.signatureListing {} column qualifier ending).Proper := by
  constructor
  · -- the opening, the items and the ending
    exact fun c hc => isInline_of_isSignatureChar
      (isSignatureChar_of_mem_opening h hp hqualifier column ending c hc)
  · intro item hitem
    obtain ⟨q, hq, rfl⟩ := List.mem_map.mp hitem
    exact properItem_render (hp.parameters q (parameters_subset h hq))
  · simp only [signatureListing, String.toList_append, List.forall_mem_append]
    refine ⟨?_, hending⟩
    split <;> exact List.all_eq_true.mp (by decide +kernel)

/-- In front of the list of a signature stands no parenthesis. -/
private theorem not_mem_of_isSignatureChar {cs : List Char}
    (h : ∀ c ∈ cs, isSignatureChar c = true) :
    '(' ∉ cs := fun hmem =>
  absurd (h '(' hmem) (by decide)

/-- The class in front of a method can stand in a signature. -/
private theorem isSignatureChar_of_mem_qualifier (w : Wrapper) :
    ∀ c ∈ (w.qualifier {}).toList, isSignatureChar c = true := by
  rw [qualifier]
  split <;> exact List.all_eq_true.mp (by decide +kernel)

/-- A declaration is proper. -/
theorem proper_declarationListing (h : ofPrototype ⟨maxWidth, {}, rules⟩ p = .ok w)
    (hp : p.Spelled) :
    (w.declarationListing {}).Proper ∧ '(' ∉ (w.declarationListing {}).opening := by
  have hqualifier : ∀ c ∈ "".toList, isSignatureChar c = true :=
    List.all_eq_true.mp (by decide)
  exact ⟨proper_signatureListing h hp hqualifier (List.all_eq_true.mp (by decide)) _,
    not_mem_of_isSignatureChar (isSignatureChar_of_mem_opening h hp hqualifier _ _)⟩

/-- The first part of a definition is proper. -/
private theorem proper_headListing (h : ofPrototype ⟨maxWidth, {}, rules⟩ p = .ok w)
    (hp : p.Spelled) :
    (w.headListing {}).Proper ∧ '(' ∉ (w.headListing {}).opening := by
  have hqualifier := w.isSignatureChar_of_mem_qualifier
  exact ⟨proper_signatureListing h hp hqualifier (List.all_eq_true.mp (by decide)) _,
    not_mem_of_isSignatureChar (isSignatureChar_of_mem_opening h hp hqualifier _ _)⟩

/-- A call of identifiers and of what a count query passes. -/
private theorem proper_callListing {opening callee : String} {arguments : List String}
    (hopening : ∀ c ∈ opening.toList, isInline c = true)
    (hcallee : ∀ c ∈ callee.toList, isInline c = true)
    (harguments : ∀ a ∈ arguments, ProperItem a.toList) :
    (callListing opening callee arguments).Proper := by
  constructor
  · simp only [callListing, String.toList_append, List.forall_mem_append]
    exact ⟨hopening, hcallee⟩
  · intro item hitem
    obtain ⟨a, ha, rfl⟩ := List.mem_map.mp hitem
    exact harguments a ha
  · rw [callListing, List.forall_mem_singleton]
    decide

/-- The arguments of a call are items of a listing. -/
private theorem properItem_of_mem_arguments (h : ofPrototype ⟨maxWidth, {}, rules⟩ p = .ok w)
    (hp : p.Spelled) : ∀ a ∈ w.arguments, ProperItem a.toList := fun a ha =>
  properItem_of_isIdentifier (isIdentifier_of_mem_arguments h hp a ha)

/-- So are the arguments of a count query, with the count and the place for the elements. -/
private theorem properItem_of_mem_query (h : ofPrototype ⟨maxWidth, {}, rules⟩ p = .ok w)
    (hp : p.Spelled) {elements : String} (helements : ProperItem elements.toList) :
    ∀ a ∈ w.arguments ++ ["&count", elements], ProperItem a.toList := by
  have hcount : ProperItem "&count".toList :=
    ⟨List.all_eq_true.mp (by decide), by decide, by decide⟩
  rw [List.forall_mem_append, List.forall_mem_cons, List.forall_mem_singleton]
  exact ⟨properItem_of_mem_arguments h hp, hcount, helements⟩

/-- The member of the function table that a definition calls. -/
private theorem isInline_of_mem_member (h : ofPrototype ⟨maxWidth, {}, rules⟩ p = .ok w)
    (hp : p.Spelled) :
    ∀ c ∈ (({} : Naming).tableAccessor ++ "()." ++ w.declaredName).toList, isInline c = true := by
  simp only [String.toList_append, List.forall_mem_append]
  refine ⟨⟨List.all_eq_true.mp (by decide +kernel), List.all_eq_true.mp (by decide)⟩, ?_⟩
  rw [declaredName_of_ofPrototype h]
  exact fun c hc => isInline_of_isWordPart (isWordPart_of_isIdentifier hp.name c hc)

/-- The statements of a definition are proper. -/
private theorem proper_bodyLines (h : ofPrototype ⟨maxWidth, {}, rules⟩ p = .ok w)
    (hp : p.Spelled) :
    ∀ line ∈ w.bodyLines {}, line.Proper := by
  have hmember := isInline_of_mem_member h hp
  rw [bodyLines]
  -- the member is one text in all the lines; only its characters matter
  generalize ({} : Naming).tableAccessor ++ "()." ++ w.declaredName = member at hmember ⊢
  cases w.form with
  | forward =>
    rw [List.forall_mem_singleton]
    exact proper_callListing (List.all_eq_true.mp (by decide)) hmember
      (properItem_of_mem_arguments h hp)
  | recorderMethod =>
    rw [List.forall_mem_singleton]
    refine proper_callListing ?_ hmember (properItem_of_mem_arguments h hp)
    split <;> exact List.all_eq_true.mp (by decide)
  -- seven lines: the member bound to a name, the count, the first call, the result, its size, the
  -- second call and the return
  | countQuery elementType returnsStatus =>
    have hreturn : ∀ c ∈ (w.returnType.render {}).toList, isInline c = true := fun c hc =>
      isInline_of_isSignatureChar (isSignatureChar_of_mem_returnType h hp c hc)
    have hnull : ProperItem "nullptr".toList :=
      ⟨List.all_eq_true.mp (by decide), by decide, by decide⟩
    have hdata : ProperItem "result.value.data()".toList :=
      ⟨List.all_eq_true.mp (by decide +kernel), by decide, by decide +kernel⟩
    -- the lines without a name of the prototype are checked as they stand
    simp only [List.forall_mem_cons]
    refine ⟨?_, CodeLine.proper_plain (by decide +kernel), ?_, ?_,
      CodeLine.proper_plain (by decide +kernel), ?_, CodeLine.proper_plain (by decide +kernel),
      List.forall_mem_nil _⟩
    · simp only [CodeLine.Proper, String.toList_append, List.forall_mem_append]
      exact ⟨⟨List.all_eq_true.mp (by decide +kernel), hmember⟩,
        List.all_eq_true.mp (by decide)⟩
    · exact proper_callListing (List.all_eq_true.mp (by decide)) (List.all_eq_true.mp (by decide))
        (properItem_of_mem_query h hp hnull)
    · simp only [CodeLine.Proper, String.toList_append, List.forall_mem_append]
      exact ⟨⟨List.all_eq_true.mp (by decide), hreturn⟩,
        List.all_eq_true.mp (by decide)⟩
    · refine proper_callListing ?_ (List.all_eq_true.mp (by decide))
        (properItem_of_mem_query h hp hdata)
      -- the second call is assigned to the status exactly if there is one
      cases returnsStatus <;> exact List.all_eq_true.mp (by decide +kernel)

/-- The lines of a definition are proper. -/
theorem proper_definitionLines (h : ofPrototype ⟨maxWidth, {}, rules⟩ p = .ok w)
    (hp : p.Spelled) : ∀ line ∈ w.definitionLines {}, line.Proper := by
  rw [definitionLines, List.forall_mem_cons, List.forall_mem_cons, List.forall_mem_append,
    List.forall_mem_singleton]
  exact ⟨(proper_headListing h hp).1, CodeLine.proper_plain (by decide), proper_bodyLines h hp,
    CodeLine.proper_plain (by decide)⟩

end Proper

/-- The limit changes neither the wrapper of what was read nor its code, line breaks behind
commas aside.  The declaration, the first part of the definition and each call is on one line
if there is no limit, if it fits, or if it lists fewer than two items; otherwise each item
has a line of its own, at the column just past the parenthesis of the list. -/
theorem width_affects_layout_only {span : Span} {p : Prototype} {rules : Rules} {maxWidth : Nat}
    {w : Wrapper} (hspan : Prototype.ofSpan span = .ok p)
    (h : ofPrototype ⟨maxWidth, {}, rules⟩ p = .ok w) :
    ofPrototype ⟨0, {}, rules⟩ p = .ok w ∧
    joinBreaks (w.declaration ⟨maxWidth, {}, rules⟩).toList =
      (w.declaration ⟨0, {}, rules⟩).toList ∧
    joinBreaks (w.definition ⟨maxWidth, {}, rules⟩).toList =
      (w.definition ⟨0, {}, rules⟩).toList ∧
    (w.declaration ⟨maxWidth, {}, rules⟩).toList = (w.declarationListing {}).laid maxWidth ∧
    (w.definition ⟨maxWidth, {}, rules⟩).toList = codeText maxWidth (w.definitionLines {}) ∧
    (w.declarationListing {}).Proper ∧ ∀ line ∈ w.definitionLines {}, line.Proper := by
  have hp := Prototype.spelled_of_ofSpan hspan
  -- building a wrapper does not read the limit
  have hunlimited : ofPrototype ⟨0, {}, rules⟩ p = .ok w := h
  obtain ⟨hdeclared, hfirst⟩ := proper_declarationListing h hp
  have hlines := proper_definitionLines h hp
  -- the code is laid out in any width, and so without a limit
  have hdeclaration : ∀ width, (w.declaration ⟨width, {}, rules⟩).toList =
      (w.declarationListing {}).laid width := fun width => toList_declaration hdeclared hfirst
  have hdefinition : ∀ width, (w.definition ⟨width, {}, rules⟩).toList =
      codeText width (w.definitionLines {}) := fun width =>
    toList_definition hlines (proper_headListing h hp).2
  refine ⟨hunlimited, ?_, ?_, hdeclaration maxWidth, hdefinition maxWidth, hdeclared, hlines⟩
  · -- joining undoes the layout at any limit, and the layout at 0 has nothing to join
    have hjoined := Listing.joinBreaks_laid maxWidth hdeclared []
    rwa [joinBreaks, List.append_nil, List.append_nil, ← hdeclaration, ← hdeclaration] at hjoined
  · rw [hdefinition, hdefinition, joinBreaks_codeText maxWidth hlines]

/-- A count query whose first call fits and whose second does not. -/
theorem width_affects_layout_only_of_countQuery :
    let span : Span := ⟨7, 7,
      "VKAPI_ATTR void VKAPI_CALL vkGetItems(VkDevice device, uint32_t* pItemCount, VkItem* pItems);"⟩
    let p : Prototype := ⟨"vkGetItems", "void",
      ⟨[⟨"device", "VkDevice", none⟩, ⟨"pItemCount", "uint32_t*", none⟩,
        ⟨"pItems", "VkItem*", none⟩]⟩, 7⟩
    let w := shape ⟨40, {}, {}⟩ p (some .device)
    Prototype.ofSpan span = .ok p ∧ ofPrototype ⟨40, {}, {}⟩ p = .ok w ∧
      (w.definition ⟨40, {}, {}⟩).toList =
        ["VulkanResultWithValue<std::vector<VkItem>> vkGetItems()",
          "\x7b",
          "  const auto& fp = GetFunctionTable().vkGetItems;",
          "  uint32_t count = 0;",
          "  fp(device_, &count, nullptr);",
          "  VulkanResultWithValue<std::vector<VkItem>> result;",
          "  result.value.resize(count);",
          "  fp(device_,",
          "     &count,",
          "     result.value.data());",
          "  return result;",
          "\x7d"].flatMap (fun line => line.toList ++ ['\n']) ∧
      joinBreaks (w.definition ⟨40, {}, {}⟩).toList = (w.definition ⟨0, {}, {}⟩).toList := by
  intro span p w
  have hspan : Prototype.ofSpan span = .ok p := by decide +kernel
  have h : ofPrototype ⟨40, {}, {}⟩ p = .ok w := rfl
  obtain ⟨_, _, hjoined, _, hlines, _⟩ := width_affects_layout_only hspan h
  refine ⟨hspan, h, ?_, hjoined⟩
  -- the statements are evaluated, and each is written by itself
  rw [hlines]
  decide +kernel

end VulkanGen.Wrapper
