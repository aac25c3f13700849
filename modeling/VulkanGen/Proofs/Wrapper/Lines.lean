import VulkanGen.Proofs.Layout.Listings
import VulkanGen.Proofs.Wrapper.Arguments
import VulkanGen.Wrapper.Lines
import VulkanGen.Wrapper.Scope

/-!
# A wrapper is written line by line

The declaration of a wrapper and the first part of its definition are written from the same
signature.  They differ in what the language asks for: the declaration ends in a semicolon
and is indented inside its class, and the definition of a method names the class.  Each of
them is wrapped by itself, and so is each statement of the definition, whatever names a
configuration chooses.

## Key results

- `wraps_declaration`, `wrapsLines_definition`: what the code of a wrapper is a wrapping of
- `toList_body`: the statements of a definition, line by line
- `declaresLocal_of_mem_localNames`: what the statements of a definition declare
- `item_cases`: what its calls pass
-/

namespace VulkanGen.Wrapper

open Layout

/-! ## What is written -/

/-- The text of a signature, part by part. -/
private theorem ofList_text_signatureListing (naming : Naming) (column : Nat)
    (qualifier ending : String) (w : Wrapper) :
    .ofList (w.signatureListing naming column qualifier ending).text =
      w.returnType.render naming ++ " " ++ qualifier ++ w.name ++ "(" ++ w.parameters.render ++
        ")" ++ (if w.isRecorderMethod then " const noexcept" else "") ++ ending := by
  rw [← String.toList_inj, String.toList_ofList]
  simp only [Listing.text, Listing.textWith, Listing.listed, signatureListing,
    ParameterList.render, String.toList_append, String.toList_intercalate, List.map_map,
    List.append_assoc]
  rfl

/-- The declaration is wrapped behind the margin of its class. -/
theorem toList_declaration_eq (config : Config) (w : Wrapper) :
    (w.declaration config).toList =
      List.replicate (w.declarationListing config.naming).column ' ' ++
        (wrapParameters (.ofList (w.declarationListing config.naming).text)
          (w.declarationListing config.naming).column config.maxWidth).toList := by
  have hcolumn : indentation.utf8ByteSize = 2 := rfl
  have hmargin : indentation.toList = List.replicate 2 ' ' := rfl
  rw [declarationListing, ofList_text_signatureListing, declaration, declarationLine, signature]
  by_cases hmethod : w.isRecorderMethod = true
  · simp [hmethod, signatureListing, methodSuffix, hcolumn, hmargin, toString_string]
  · simp [hmethod, signatureListing, toString_string]

/-- So is the first part of the definition, which has no margin. -/
theorem head_eq (config : Config) (w : Wrapper) :
    w.head config =
      wrapParameters (.ofList (w.headListing config.naming).text) 0 config.maxWidth := by
  rw [headListing, ofList_text_signatureListing, head, headLine, signature, qualifier]
  by_cases hmethod : w.isRecorderMethod = true
  · simp only [hmethod, if_true, String.append_empty]
    simp [toString, methodSuffix, String.append_assoc]
  · simp only [hmethod, Bool.false_eq_true, if_false, String.append_empty]
    rfl

/-- A call is wrapped at the parenthesis of its arguments. -/
theorem toList_callStatement (opening callee : String) (arguments : List String)
    (maxWidth : Nat) :
    (callStatement opening callee arguments maxWidth).toList =
      (CodeLine.listing (callListing opening callee arguments)).written maxWidth := by
  let l := callListing opening callee arguments
  -- the parenthesis of the arguments stands behind the callee, at its length
  have hstatement : (opening ++ call callee arguments ++ ";").toList =
      l.opening ++ '(' :: l.listed Listing.comma := by
    simp only [call, l, callListing, Listing.listed, String.toList_append,
      String.toList_intercalate, List.append_assoc]
    rfl
  have hposition : (opening ++ callee).toList.length = l.opening.length := rfl
  rw [callStatement, hstatement, hposition, List.take_left, List.drop_append,
    List.drop_eq_nil_of_le (Nat.le_succ _), Nat.add_sub_cancel_left, String.toList_append]
  rfl

/-- The statements of a definition, each with its line break. -/
theorem toList_body (config : Config) (w : Wrapper) :
    (w.body config).toList =
      (w.bodyLines config.naming).flatMap fun line => line.written config.maxWidth ++ ['\n'] := by
  rw [body, bodyLines]
  cases w.form with
  | forward =>
    simp only [String.toList_append, toList_callStatement, List.flatMap_cons, List.flatMap_nil,
      List.append_nil]
    rfl
  | recorderMethod =>
    simp only [String.toList_append, toList_callStatement, List.flatMap_cons, List.flatMap_nil,
      List.append_nil]
    rfl
  | countQuery elementType returnsStatus =>
    -- two of its seven lines are calls
    simp only [String.toList_append, toList_callStatement, tableMember, passedArguments,
      List.flatMap_cons, List.flatMap_nil, CodeLine.written, toString_string]
    simp

/-- The definition: its first part, and its statements in braces. -/
theorem toList_definition_eq (config : Config) (w : Wrapper) :
    (w.definition config).toList =
      (w.head config).toList ++ '\n' :: '{' :: '\n' :: ((w.body config).toList ++ ['}', '\n']) := by
  rw [definition, String.toList_append, String.toList_append, String.toList_append, toList_block]
  simp

/-! ## What it is a wrapping of -/

/-- The declaration is its listing, wrapped. -/
theorem wraps_declaration (config : Config) (w : Wrapper) :
    Wraps ((w.declarationListing config.naming).laid 0) (w.declaration config).toList := by
  rw [toList_declaration_eq]
  apply Listing.wraps_laid
  have hwraps := wraps_wrapParameters (.ofList (w.declarationListing config.naming).text)
    (w.declarationListing config.naming).column config.maxWidth
  rwa [String.toList_ofList] at hwraps

/-- So is the first part of the definition. -/
theorem wraps_head (config : Config) (w : Wrapper) :
    Wraps ((w.headListing config.naming).laid 0) (w.head config).toList := by
  have hcolumn : (w.headListing config.naming).laid 0 = (w.headListing config.naming).text :=
    Listing.laid_zero _
  have hwraps := wraps_wrapParameters (.ofList (w.headListing config.naming).text) 0
    config.maxWidth
  rw [String.toList_ofList] at hwraps
  rwa [hcolumn, head_eq]

/-- The definition is its lines, wrapped one by one. -/
theorem wrapsLines_definition (config : Config) (w : Wrapper) :
    WrapsLines (w.definitionLines config.naming) (w.definition config).toList := by
  rw [toList_definition_eq, toList_body]
  -- the braces are not wrapped, and the statements are wrapped by themselves
  have hclose : WrapsLines [.plain ['}']] (['}'] ++ '\n' :: []) :=
    .cons (CodeLine.wraps_written 0 (.plain ['}'])) .nil
  have hstatements := wrapsLines_written config.maxWidth (w.bodyLines config.naming) hclose
  exact .cons (wraps_head config w) (.cons (CodeLine.wraps_written 0 (.plain ['{'])) hstatements)

/-! ## What the statements declare -/

/-- Every local variable is declared by a statement of the definition. -/
theorem declaresLocal_of_mem_localNames (naming : Naming) {w : Wrapper} {name : String}
    (h : name ∈ w.localNames) : w.DeclaresLocal naming name := by
  rw [localNames] at h
  rw [DeclaresLocal, bodyLines]
  cases hform : w.form with
  -- a definition that is one call declares nothing
  | forward => exact absurd (hform ▸ h) List.not_mem_nil
  | recorderMethod => exact absurd (hform ▸ h) List.not_mem_nil
  | countQuery elementType returnsStatus =>
    rw [hform] at h
    simp only [List.mem_cons, List.not_mem_nil, or_false] at h
    -- the member of the table, the number of elements and the elements
    rcases h with rfl | rfl | rfl
    · refine ⟨"const auto&", " = " ++ (naming.tableAccessor ++ "()." ++ w.declaredName) ++ ";",
        .inr ⟨_, rfl⟩, ?_⟩
      refine List.mem_cons.mpr (.inl (congrArg CodeLine.plain ?_))
      simp only [String.toList_append, List.append_assoc]
      rfl
    · refine ⟨"uint32_t", " = 0;", .inr ⟨"0", rfl⟩, ?_⟩
      exact List.mem_cons_of_mem _ List.mem_cons_self
    · refine ⟨w.returnType.render naming, ";", .inl rfl, ?_⟩
      refine List.mem_cons_of_mem _ (List.mem_cons_of_mem _ (List.mem_cons_of_mem _ ?_))
      refine List.mem_cons.mpr (.inl (congrArg CodeLine.plain ?_))
      simp only [String.toList_append, List.append_assoc]
      rfl

/-- A definition has no local variables exactly if it is one call. -/
theorem localNames_eq_nil_iff (naming : Naming) (w : Wrapper) :
    w.localNames = [] ↔ ∃ l, w.bodyLines naming = [.listing l] := by
  rw [localNames, bodyLines]
  cases w.form <;> simp

/-! ## What the calls pass -/

/-- Binding a handle passes its variable for one parameter, and all others by their names. -/
private theorem argument_of_bindHandle {naming : Naming} {ps : ParameterList}
    {binding : Option Binding} {i : Nat} {a : String}
    (h : (bindHandle naming ps binding).2[i]? = some a) :
    ps.names[i]? = some a ∨ ∃ b, binding = some b ∧ a = b.variableName naming := by
  rw [bindHandle_eq] at h
  cases hbound : boundHandle? naming ps binding with
  | none =>
    rw [hbound] at h
    exact .inl h
  | some bound =>
    obtain ⟨j, v⟩ := bound
    rw [hbound] at h
    obtain ⟨b, hb, _, hv⟩ := boundHandle?_eq_some hbound
    by_cases hij : j = i
    · -- the position of the handle
      have hlt : j < ps.names.length := ps.length_names ▸ boundHandle?_lt hbound
      rw [hij, List.getElem?_set_self (hij ▸ hlt)] at h
      exact .inr ⟨b, hb, (Option.some.inj h).symm.trans hv⟩
    · rw [List.getElem?_set_ne hij] at h
      exact .inl h

/-- An argument is the declared name at its position, the variable of the bound handle, or
the field of a recorder method. -/
theorem argument_cases {config : Config} {p : Prototype} {w : Wrapper}
    (h : ofPrototype config p = .ok w) {i : Nat} {a : String} (ha : w.arguments[i]? = some a) :
    p.parameters.names[i]? = some a ∨
      (∃ b, w.binding = some b ∧ a = b.variableName config.naming) ∨
      (w.form = .recorderMethod ∧ a = config.naming.recorderField) := by
  obtain ⟨binding, _, rfl⟩ := (ofPrototype_eq_ok_iff config p w).mp h
  rw [(shape_declared config p binding).1]
  -- the three forms take their arguments from the same list
  rcases shape_cases config p binding with hrec | ⟨elementType, hquery⟩ | hforward
  · rw [hrec.arguments] at ha
    by_cases hi : 0 = i
    · -- the command buffer, for which the field is passed
      have hlt := (List.getElem?_eq_some_iff.mp ha).1
      rw [List.length_set] at hlt
      subst hi
      rw [List.getElem?_set_self hlt] at ha
      exact .inr (.inr ⟨hrec.form, (Option.some.inj ha).symm⟩)
    · rw [List.getElem?_set_ne hi] at ha
      exact (argument_of_bindHandle ha).imp_right .inl
  · rw [hquery.arguments, List.getElem?_take] at ha
    have hpassed := (Option.ite_none_right_eq_some.mp ha).2
    exact (argument_of_bindHandle hpassed).imp_right .inl
  · rw [hforward.arguments] at ha
    exact (argument_of_bindHandle ha).imp_right .inl

/-- The calls of a definition list its arguments, and behind them, in a count query, the
number of elements and where they go. -/
private theorem items_of_mem_bodyLines {naming : Naming} {w : Wrapper} {l : Listing}
    (h : .listing l ∈ w.bodyLines naming) :
    l.items = w.arguments.map String.toList ∨
      (∃ elementType returnsStatus, w.form = .countQuery elementType returnsStatus) ∧
        ∃ elements ∈ ["nullptr", "result.value.data()"],
          l.items = (w.arguments ++ ["&count", elements]).map String.toList := by
  rw [bodyLines] at h
  cases hform : w.form with
  | forward =>
    simp only [hform, List.mem_singleton, CodeLine.listing.injEq] at h
    exact .inl (h ▸ rfl)
  | recorderMethod =>
    simp only [hform, List.mem_singleton, CodeLine.listing.injEq] at h
    exact .inl (h ▸ rfl)
  -- the two calls of a count query pass the same but for the last argument
  | countQuery elementType returnsStatus =>
    simp only [hform, List.mem_cons, CodeLine.listing.injEq, reduceCtorEq, List.not_mem_nil,
      or_false, false_or] at h
    refine .inr ⟨⟨elementType, returnsStatus, rfl⟩, ?_⟩
    rcases h with rfl | rfl
    · exact ⟨"nullptr", List.mem_cons_self, rfl⟩
    · exact ⟨"result.value.data()", List.mem_cons_of_mem _ List.mem_cons_self, rfl⟩

/-- Where an item of a call comes from. -/
theorem item_cases {config : Config} {p : Prototype} {w : Wrapper}
    (h : ofPrototype config p = .ok w) {l : Listing}
    (hl : .listing l ∈ w.bodyLines config.naming) {i : Nat} {a : String}
    (ha : l.items[i]? = some a.toList) :
    p.parameters.names[i]? = some a ∨
      (∃ b, w.binding = some b ∧ a = b.variableName config.naming) ∨
      (w.form = .recorderMethod ∧ a = config.naming.recorderField) ∨
      (∃ elementType returnsStatus, w.form = .countQuery elementType returnsStatus) ∧
        a ∈ ["&count", "nullptr", "result.value.data()"] := by
  -- an item is an argument written as a list of characters
  have hnames : ∀ {as : List String}, (as.map String.toList)[i]? = some a.toList →
      as[i]? = some a := by
    intro as has
    rw [List.getElem?_map, Option.map_eq_some_iff] at has
    obtain ⟨b, hb, heq⟩ := has
    rw [hb, String.toList_inj.mp heq]
  rcases items_of_mem_bodyLines hl with hitems | ⟨hquery, elements, helements, hitems⟩
  · exact (argument_cases h (hnames (hitems ▸ ha))).imp_right (Or.imp_right .inl)
  · have hpassed := hnames (hitems ▸ ha)
    rw [List.getElem?_append] at hpassed
    split at hpassed
    · exact (argument_cases h hpassed).imp_right (Or.imp_right .inl)
    · -- behind the arguments of a count query
      have hmem := List.mem_of_getElem? hpassed
      refine .inr (.inr (.inr ⟨hquery, ?_⟩))
      simp only [List.mem_cons, List.not_mem_nil, or_false] at hmem helements ⊢
      rcases hmem with hcount | rfl
      · exact .inl hcount
      · exact .inr helements

end VulkanGen.Wrapper
