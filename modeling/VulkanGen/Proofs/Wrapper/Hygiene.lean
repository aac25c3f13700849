import VulkanGen.Declaration.Parser
import VulkanGen.Proofs.Wrapper.Lines
import VulkanGen.Proofs.Wrapper.Signature

/-!
# What the arguments of a call mean

A definition passes two kinds of names to the function table: those of its parameters, and
those that it brings in itself.  Headers choose the first and the configuration the
second, and nothing keeps them apart.  A parameter that is called like the variable of a
bound handle takes its place in the call, and one that is called like a local variable is
declared twice.

## Key results

- `introducedNames_of_ofPrototype`: the names that a definition brings in
- `names_of_mem_bodyLines`: there are no others in its calls than these and declared ones
- `mem_parameters_of_declared`: what is passed as declared is in the signature
- `hygienic_iff`: when no name is taken twice, and what follows for the calls
-/

namespace VulkanGen

namespace Prototype

/-- The names that the definition of a prototype's wrapper brings in. -/
def reservedNames (config : Config) (p : Prototype) : List String :=
  (if p.isRecorded config then [config.naming.recorderField]
    else if endsInPair config (p.unbound config) then ["fp", "count", "result"]
    else []) ++
  ([Binding.device, .inst].filter (Wrapper.takes config p.parameters)).map
    (·.variableName config.naming)

end Prototype

namespace Wrapper

variable {config : Config} {p : Prototype} {w : Wrapper}

/-- The names that the definition brings in. -/
theorem introducedNames_of_ofPrototype (h : ofPrototype config p = .ok w) :
    w.introducedNames config.naming = p.reservedNames config := by
  obtain ⟨binding, hbinding, rfl⟩ := (ofPrototype_eq_ok_iff config p w).mp h
  -- the binding is the only handle that applies, so its variable is the only one
  have hvariables : binding.toList =
      [Binding.device, .inst].filter (takes config p.parameters) := by
    have hdevice := hbinding .device
    have hinst := hbinding .inst
    simp only [List.filter_cons, List.filter_nil, ← hdevice, ← hinst]
    rcases binding with _ | _ | _ <;> rfl
  rw [introducedNames, Prototype.reservedNames, (shape_declared config p binding).1,
    ← hvariables, Option.toList_map]
  -- the local variables are those of the form, and the rules decide that
  rcases form_cases hbinding with ⟨hrecorded, hrecords⟩ |
    ⟨hrecorded, hpair, elementType, hqueries⟩ | ⟨hrecorded, hpair, hforwards⟩
  · rw [hrecords.form, hrecorded, if_pos rfl]
  · rw [hqueries.form, hrecorded, hpair, if_neg Bool.false_ne_true, if_pos rfl]
  · rw [hforwards.form, hrecorded, hpair, if_neg Bool.false_ne_true, if_neg Bool.false_ne_true]

/-- The calls of a definition list no other names than those of the declared parameters and
those that the definition brings in. -/
theorem names_of_mem_bodyLines (h : ofPrototype config p = .ok w) {l : Layout.Listing}
    (hl : .listing l ∈ w.bodyLines config.naming) {i : Nat} {a : String}
    (ha : l.items[i]? = some a.toList) :
    a ∈ p.parameters.names ∨ a ∈ w.introducedNames config.naming ∨ a = "nullptr" ∨
      ∃ name ∈ w.introducedNames config.naming, a = "&" ++ name ∨ a = name ++ ".value.data()" := by
  simp only [mem_introducedNames_iff]
  -- an item is an argument of the wrapper, or what a count query adds to them
  rcases item_cases h hl ha with hname | hbound | ⟨hform, hfield⟩ |
    ⟨⟨elementType, returnsStatus, hform⟩, hquery⟩
  · exact .inl (List.mem_of_getElem? hname)
  · exact .inr (.inl (.inr (.inr hbound)))
  · exact .inr (.inl (.inr (.inl ⟨beq_of_eq hform, hfield⟩)))
  · -- a count query uses its local variables
    have hlocal : w.localNames = ["fp", "count", "result"] := by rw [localNames, hform]
    simp only [List.mem_cons, List.not_mem_nil, or_false] at hquery
    rcases hquery with rfl | rfl | rfl
    · exact .inr (.inr (.inr ⟨"count", .inl (hlocal ▸ by decide), .inl rfl⟩))
    · exact .inr (.inr (.inl rfl))
    · exact .inr (.inr (.inr ⟨"result", .inl (hlocal ▸ by decide), .inr rfl⟩))

/-! ## What a call passes -/

/-- Every name that a call passes for a declared parameter means what it should: what stands
for the command buffer of a recorder method or for a bound handle comes from outside, and
everything else is the parameter that is declared there.  The count and the elements of a
count query are not among the arguments. -/
structure PassesAsMeant (naming : Naming) (p : Prototype) (w : Wrapper) : Prop where
  substituted : ∀ i v, (i, v) ∈ substitutions naming p w →
    w.arguments[i]? = some v ∧ w.meaning v = .outer
  declared : ∀ i q, p.parameters.toList[i]? = some q → i < w.arguments.length →
    i ∉ (substitutions naming p w).map (·.1) →
      w.arguments[i]? = some q.name ∧ w.meaning q.name = .parameter

section Passed

variable {binding : Option Binding} {i : Nat} {v : String} {q : Parameter}

/-- An argument other than the recorder's field is that of the bound list. -/
private theorem getElem?_arguments (hi : i < (shape config p binding).arguments.length)
    (hfield : (shape config p binding).isRecorderMethod = true → i ≠ 0) :
    (shape config p binding).arguments[i]? =
      (bindHandle config.naming p.parameters binding).2[i]? := by
  rcases shape_cases config p binding with hrecords | ⟨elementType, hqueries⟩ | hforwards
  · rw [hrecords.arguments,
      List.getElem?_set_ne (Ne.symm (hfield hrecords.isRecorderMethod))]
  · rw [hqueries.arguments, List.length_take] at hi
    rw [hqueries.arguments, List.getElem?_take_of_lt (by omega)]
  · rw [hforwards.arguments]

/-- The recorder's field stands first. -/
private theorem getElem?_arguments_zero (h : (shape config p binding).isRecorderMethod = true) :
    (shape config p binding).arguments[0]? = some config.naming.recorderField := by
  have hmethod : (shape config p binding).form = .recorderMethod := eq_of_beq h
  rcases shape_cases config p binding with hrecords | ⟨elementType, hqueries⟩ | hforwards
  · obtain ⟨first, hfirst, _⟩ := first_of_recordsCommand hrecords.records
    have hpos : 0 < p.parameters.length := (List.getElem?_eq_some_iff.mp hfirst).1
    have hstep := (inStep_bindHandle config.naming p.parameters binding).length
    rw [hrecords.arguments, List.getElem?_set_self (hstep ▸ hpos)]
  · exact nomatch hqueries.form.symm.trans hmethod
  · exact nomatch hforwards.form.symm.trans hmethod

/-- The handle of a recorder method stands behind the command buffer. -/
private theorem position_ne_zero_of_isRecorderMethod
    (hdevice : config.naming.commandBufferType ≠ config.naming.deviceType)
    (hinst : config.naming.commandBufferType ≠ config.naming.instanceType)
    (hmethod : (shape config p binding).isRecorderMethod = true)
    (hbound : boundHandle? config.naming p.parameters binding = some (i, v)) : i ≠ 0 := by
  have hform : (shape config p binding).form = .recorderMethod := eq_of_beq hmethod
  rcases shape_cases config p binding with hrecords | ⟨elementType, hqueries⟩ | hforwards
  · intro hi
    have hzero : 0 ∉ (boundHandle? config.naming p.parameters binding).toList.map (·.1) :=
      position_ne_zero_of_recordsCommand hdevice hinst hrecords.records
    exact hzero (List.mem_map.mpr ⟨(i, v), Option.mem_toList.mpr hbound, hi⟩)
  · exact nomatch hqueries.form.symm.trans hform
  · exact nomatch hforwards.form.symm.trans hform

/-- What is passed as declared is in the signature, if the handle is passed. -/
theorem mem_parameters_of_declared
    (hdevice : config.naming.commandBufferType ≠ config.naming.deviceType)
    (hinst : config.naming.commandBufferType ≠ config.naming.instanceType)
    (hpassed : ∀ i v, boundHandle? config.naming p.parameters binding = some (i, v) →
      i < (shape config p binding).arguments.length)
    (hq : p.parameters.toList[i]? = some q) (hi : i < (shape config p binding).arguments.length)
    (hfree : i ∉ (substitutions config.naming p (shape config p binding)).map (·.1)) :
    q ∈ (shape config p binding).parameters.toList := by
  have hbinding := (shape_declared config p binding).1
  rw [substitutions, hbinding, List.map_append, List.mem_append, not_or] at hfree
  obtain ⟨hfield, hhandle⟩ := hfree
  -- a position that nothing is substituted at is not that of the handle
  have hother : ∀ v, boundHandle? config.naming p.parameters binding ≠ some (i, v) :=
    fun v hbound => hhandle (List.mem_map.mpr ⟨(i, v), Option.mem_toList.mpr hbound, rfl⟩)
  obtain ⟨j, rfl, hleft⟩ := exists_getElem?_bindHandle hq hother
  rcases shape_cases config p binding with hrecords | ⟨elementType, hqueries⟩ | hforwards
  · -- the first parameter goes, and that is the command buffer
    have hmethod := hrecords.isRecorderMethod
    have hzero : declaredPosition (boundHandle? config.naming p.parameters binding) 0 = 0 :=
      declaredPosition_zero fun _ hbound =>
        position_ne_zero_of_isRecorderMethod hdevice hinst hmethod hbound
    refine hrecords.mem_parameters hleft ?_
    rintro rfl
    exact hfield (by simp [hmethod, hzero])
  · -- the last two go; the handle stands in front of them, so it moves no parameter into them
    have harguments : (shape config p binding).arguments.length = p.parameters.length - 2 := by
      rw [hqueries.arguments, List.length_take,
        (inStep_bindHandle config.naming p.parameters binding).length]
      omega
    rw [harguments] at hi
    refine hqueries.mem_parameters hleft ?_
    rw [length_bindHandle]
    exact lt_of_declaredPosition_lt hi fun _ hbound => harguments ▸ hpassed _ _ hbound
  · rw [hforwards.parameters]
    exact List.mem_of_getElem? hleft

/-- What is passed for a parameter that is not in the signature, if the handle is passed. -/
private theorem getElem?_arguments_of_mem_substitutions
    (hdevice : config.naming.commandBufferType ≠ config.naming.deviceType)
    (hinst : config.naming.commandBufferType ≠ config.naming.instanceType)
    (hpassed : ∀ i v, boundHandle? config.naming p.parameters binding = some (i, v) →
      i < (shape config p binding).arguments.length)
    (hmem : (i, v) ∈ substitutions config.naming p (shape config p binding)) :
    (shape config p binding).arguments[i]? = some v := by
  rw [substitutions, (shape_declared config p binding).1, List.mem_append] at hmem
  -- the field of the recorder, or the variable of the handle
  rcases hmem with hfield | hhandle
  · obtain ⟨hmethod, hmem⟩ := List.mem_ite_nil_right.mp hfield
    obtain ⟨rfl, rfl⟩ := Prod.mk.inj (List.mem_singleton.mp hmem)
    exact getElem?_arguments_zero hmethod
  · have hbound := Option.mem_toList.mp hhandle
    have hstep := inStep_bindHandle config.naming p.parameters binding
    rw [getElem?_arguments (hpassed i v hbound) fun hmethod =>
      position_ne_zero_of_isRecorderMethod hdevice hinst hmethod hbound]
    exact hstep.substituted i v hhandle

/-- What is passed for a parameter that is in the signature is its name. -/
private theorem getElem?_arguments_of_declared
    (hq : p.parameters.toList[i]? = some q) (hi : i < (shape config p binding).arguments.length)
    (hfree : i ∉ (substitutions config.naming p (shape config p binding)).map (·.1)) :
    (shape config p binding).arguments[i]? = some q.name := by
  rw [substitutions, (shape_declared config p binding).1, List.map_append, List.mem_append,
    not_or] at hfree
  have hfield : (shape config p binding).isRecorderMethod = true → i ≠ 0 := by
    intro hmethod h0
    exact hfree.1 (by simp [hmethod, h0])
  have hstep := inStep_bindHandle config.naming p.parameters binding
  rw [getElem?_arguments hi hfield, hstep.declared i hfree.2, ParameterList.names,
    List.getElem?_map, hq]
  rfl

end Passed

/-! ## Names in the default naming -/

/-- A variable that is passed for a declared parameter is not local. -/
private theorem not_mem_localNames_of_substituted {i : Nat} {v : String}
    (h : (i, v) ∈ substitutions {} p w) : v ∉ w.localNames := by
  -- what stands for a parameter is the field of the recorder or a variable of a handle
  have houter : v = "_command_buffer" ∨ v = "device_" ∨ v = "instance_" := by
    rcases List.mem_append.mp h with hfield | hhandle
    · obtain ⟨_, hmem⟩ := List.mem_ite_nil_right.mp hfield
      exact .inl (Prod.mk.inj (List.mem_singleton.mp hmem)).2
    · obtain ⟨b, _, _, hv⟩ := boundHandle?_eq_some (Option.mem_toList.mp hhandle)
      cases b with
      | device => exact .inr (.inl hv)
      | inst => exact .inr (.inr hv)
  intro hlocal
  -- and none of these is the name of a local variable
  have hmem := w.localNames_subset hlocal
  rcases houter with rfl | rfl | rfl
  · exact absurd hmem (by decide)
  · exact absurd hmem (by decide)
  · exact absurd hmem (by decide)

/-- What a definition brings in is a local variable, or passed for a declared parameter. -/
private theorem mem_introducedNames_iff_substituted {naming : Naming}
    (hconfig : config.naming = naming) (h : ofPrototype config p = .ok w) {name : String} :
    name ∈ w.introducedNames naming ↔
      name ∈ w.localNames ∨ ∃ i, (i, name) ∈ substitutions naming p w := by
  subst hconfig
  obtain ⟨binding, hbinding, rfl⟩ := (ofPrototype_eq_ok_iff _ p w).mp h
  have hdeclared := (shape_declared config p binding).1
  rw [mem_introducedNames_iff]
  -- the field stands for the command buffer, and a variable for the handle that is bound
  refine or_congr_right ⟨?_, ?_⟩
  · rintro (⟨hmethod, rfl⟩ | ⟨b, hb, rfl⟩)
    · exact ⟨0, List.mem_append_left _ (by simp [hmethod])⟩
    · obtain ⟨i, _, hbound⟩ := boundHandle?_of_takes ((hbinding b).mp (hdeclared.symm.trans hb))
      exact ⟨i, List.mem_append_right _ (Option.mem_toList.mpr (by rw [hb, hbound]))⟩
  · intro ⟨i, hmem⟩
    rcases List.mem_append.mp hmem with hfield | hhandle
    · obtain ⟨hmethod, hmem⟩ := List.mem_ite_nil_right.mp hfield
      exact .inl ⟨hmethod, (Prod.mk.inj (List.mem_singleton.mp hmem)).2⟩
    · obtain ⟨b, hb, _, hv⟩ := boundHandle?_eq_some (Option.mem_toList.mp hhandle)
      exact .inr ⟨b, hb, hv⟩

/-- Where no name is taken twice and the bound handle is passed, a call passes what it
should. -/
private theorem passesAsMeant_of_hygienic {maxWidth : Nat} {rules : Rules}
    (h : ofPrototype ⟨maxWidth, {}, rules⟩ p = .ok w) (hhygienic : w.Hygienic {})
    (hpassed : ∀ i v, boundHandle? {} p.parameters w.binding = some (i, v) →
      i < w.arguments.length) : PassesAsMeant {} p w := by
  have hintroduced : ∀ name, name ∈ w.introducedNames {} ↔
      name ∈ w.localNames ∨ ∃ i, (i, name) ∈ substitutions {} p w := fun name =>
    mem_introducedNames_iff_substituted rfl h
  have hdevice : ({} : Naming).commandBufferType ≠ ({} : Naming).deviceType := by decide
  have hinst : ({} : Naming).commandBufferType ≠ ({} : Naming).instanceType := by decide
  obtain ⟨binding, _, rfl⟩ := (ofPrototype_eq_ok_iff _ p w).mp h
  rw [(shape_declared _ p binding).1] at hpassed
  constructor
  · -- what stands for a declared parameter is none of the locals, and no parameter's name
    intro i v hmem
    refine ⟨getElem?_arguments_of_mem_substitutions hdevice hinst hpassed hmem, ?_⟩
    have hparameter := hhygienic v ((hintroduced v).mpr (.inr ⟨i, hmem⟩))
    exact meaning_eq_outer_iff.mpr ⟨not_mem_localNames_of_substituted hmem, hparameter⟩
  · -- everything else is in the signature, and no local has its name
    intro i q hq hi hfree
    refine ⟨getElem?_arguments_of_declared hq hi hfree, ?_⟩
    have hmem := mem_parameters_of_declared hdevice hinst hpassed hq hi hfree
    have hname : q.name ∈ (shape ⟨maxWidth, {}, rules⟩ p binding).parameters.names :=
      List.mem_map.mpr ⟨q, hmem, rfl⟩
    refine meaning_eq_parameter_iff.mpr ⟨fun hlocal => ?_, hname⟩
    exact hhygienic q.name ((hintroduced q.name).mpr (.inl hlocal)) hname

/-- The names that a definition brings in are none of its parameters' exactly if no parameter
that stays in the signature is called like one of them.  Exactly then, where the bound handle
is passed at all, no parameter is declared again, and every call passes at every declared
position what it should. -/
theorem hygienic_iff (maxWidth : Nat) (rules : Rules) (p : Prototype) (w : Wrapper)
    (h : ofPrototype ⟨maxWidth, {}, rules⟩ p = .ok w) :
    (w.Hygienic {} ↔ ∀ q ∈ p.publicParameters ⟨maxWidth, {}, rules⟩,
      q.name ∉ p.reservedNames ⟨maxWidth, {}, rules⟩) ∧
    ((w.Hygienic {} ∧ ∀ i v, boundHandle? {} p.parameters w.binding = some (i, v) →
        i < w.arguments.length) ↔
      (∀ name ∈ w.localNames, name ∉ w.parameters.names) ∧ PassesAsMeant {} p w) := by
  have hintroduced : ∀ name, name ∈ w.introducedNames {} ↔
      name ∈ w.localNames ∨ ∃ i, (i, name) ∈ substitutions {} p w := fun name =>
    mem_introducedNames_iff_substituted rfl h
  refine ⟨?_, ?_, ?_⟩
  · -- both sides quantify over the same names and parameters, in another order
    rw [← parameters_of_ofPrototype h, ← introducedNames_of_ofPrototype h]
    simp only [Hygienic, ParameterList.names, List.mem_map, not_exists, not_and]
    constructor
    · intro hhygienic q hq hname
      exact hhygienic q.name hname q hq rfl
    · intro hnames name hname q hq heq
      exact hnames q hq (heq ▸ hname)
  · rintro ⟨hhygienic, hpassed⟩
    exact ⟨fun name hname => hhygienic name ((hintroduced name).mpr (.inl hname)),
      passesAsMeant_of_hygienic h hhygienic hpassed⟩
  · rintro ⟨hlocals, hmeant⟩
    constructor
    · intro name hname
      -- a variable that is passed would mean the parameter
      rcases (hintroduced name).mp hname with hlocal | ⟨i, hmem⟩
      · exact hlocals name hlocal
      · exact (meaning_eq_outer_iff.mp (hmeant.substituted i name hmem).2).2
    · intro i v hbound
      have hmem : (i, v) ∈ substitutions {} p w :=
        List.mem_append_right _ (Option.mem_toList.mpr hbound)
      exact (List.getElem?_eq_some_iff.mp (hmeant.substituted i v hmem).1).1

/-- A count query whose parameters have names of their own. -/
theorem hygienic_of_otherNames :
    let p : Prototype := ⟨"vkGetImages", "VkResult",
      ⟨[⟨"swapchain", "VkSwapchainKHR", none⟩, ⟨"device", "VkDevice", none⟩,
        ⟨"pImageCount", "uint32_t*", none⟩, ⟨"pImages", "VkImage*", none⟩]⟩, 7⟩
    ∃ w, ofPrototype ⟨120, {}, {}⟩ p = .ok w ∧
      w.introducedNames {} = ["fp", "count", "result", "device_"] ∧ w.Hygienic {} ∧
      PassesAsMeant {} p w := by
  intro p
  have h : ofPrototype ⟨120, {}, {}⟩ p = .ok (shape {} p (some .device)) := rfl
  obtain ⟨hnames, hcalls⟩ := hygienic_iff 120 {} p _ h
  have hhygienic : (shape {} p (some .device)).Hygienic {} := hnames.mpr (by decide +kernel)
  have hbound : boundHandle? {} p.parameters (shape {} p (some .device)).binding =
      some (1, "device_") := by decide +kernel
  refine ⟨_, h, by decide +kernel, hhygienic, (hcalls.mp ⟨hhygienic, ?_⟩).2⟩
  -- the handle is passed at its own position, in front of the pair
  intro i v hiv
  obtain ⟨rfl, rfl⟩ := Prod.mk.inj (Option.some.inj (hbound.symm.trans hiv))
  decide +kernel

/-- A second device that is called like the variable of the first takes its place in the
call. -/
theorem not_hygienic_of_deviceName :
    let p : Prototype := ⟨"vkLink", "void",
      ⟨[⟨"device", "VkDevice", none⟩, ⟨"device_", "VkDevice", none⟩]⟩, 1⟩
    let w := shape {} p (some .device)
    Prototype.ofSpan
        ⟨1, 1, "VKAPI_ATTR void VKAPI_CALL vkLink(VkDevice device, VkDevice device_);"⟩ = .ok p ∧
      ofPrototype {} p = .ok w ∧ ¬w.Hygienic {} ∧
      w.arguments = ["device_", "device_"] ∧ w.meaning "device_" = .parameter := by
  refine ⟨by decide +kernel, rfl, ?_, ?_, ?_⟩
  · decide +kernel
  · decide +kernel
  · decide +kernel

end Wrapper

end VulkanGen
