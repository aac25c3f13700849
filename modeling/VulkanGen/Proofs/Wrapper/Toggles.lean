import VulkanGen.Proofs.Generation.Outcome
import VulkanGen.Proofs.Wrapper.Signature

/-!
# Rules can be switched off one by one

The rules run one after the other over the same two lists, and an earlier rule decides
whether a later one runs at all.  Still no rule acts through another one: a wrapper keeps
labels of exactly the rules that shaped it, and any other rule may be switched off without
changing it.  So the labels of a wrapper tell which of the rules it depends on.

## Key results

- `enables_of_mem_appliedRules`: the rules that shaped a wrapper were enabled
- `ofPrototype_of_enables`: no other rule is needed for it
- `labels_eq_nil_iff`: which wrappers forward what is declared
- `rule_toggles_independent`: which prototypes notice that rules are switched off
-/

namespace VulkanGen

/-- A label tells which rule it is of. -/
private theorem Rule.label_injective {r s : Rule} (h : r.label = s.label) : r = s := by
  cases r <;> cases s <;> first | rfl | exact absurd h (by decide)

/-- The rules without some of them. -/
def Rules.without (rules : Rules) (rs : List Rule) : Rules :=
  rs.foldl disable rules

/-- Disabling rules leaves the others as they are. -/
private theorem Rules.enables_without (rules : Rules) (rs : List Rule) (r : Rule) :
    (rules.without rs).enables r = true ↔ rules.enables r = true ∧ r ∉ rs := by
  rw [without]
  induction rs generalizing rules with
  | nil => simp
  | cons s rs ih =>
    rw [List.foldl_cons, ih, enables_disable, Bool.and_eq_true, bne_iff_ne, List.mem_cons, not_or,
      and_assoc, ne_comm]

/-- A configuration without some of its rules. -/
def Config.without (config : Config) (rs : List Rule) : Config :=
  { config with rules := config.rules.without rs }

namespace Wrapper

variable {config : Config} {p : Prototype} {w : Wrapper} {rules : Rules}

/-- A rule has been applied if it is that of the binding or that of the form. -/
theorem mem_appliedRules_iff {r : Rule} :
    r ∈ w.appliedRules ↔ (∃ b, w.binding = some b ∧ b.rule = r) ∨ w.form.rule? = some r := by
  simp only [appliedRules, List.mem_append, Option.mem_toList, Option.map_eq_some_iff]

/-- A wrapper has the label of a rule if the rule has been applied. -/
private theorem label_mem_labels_iff {r : Rule} : r.label ∈ w.labels ↔ r ∈ w.appliedRules := by
  rw [labels, List.mem_map]
  constructor
  · intro ⟨s, hs, hlabel⟩
    exact Rule.label_injective hlabel ▸ hs
  · intro hr
    exact ⟨r, hr, rfl⟩

/-- A binding that applies has its rule enabled. -/
private theorem enables_of_takes {ps : ParameterList} {b : Binding} (h : takes config ps b = true) :
    config.rules.enables b.rule = true :=
  (Bool.and_eq_true_iff.mp h).1

/-- The rule that gives a wrapper its form is enabled. -/
private theorem enables_of_rule? {binding : Option Binding} {r : Rule}
    (h : (shape config p binding).form.rule? = some r) : config.rules.enables r = true := by
  -- each form that has a rule is only given under it
  rcases shape_cases config p binding with hrecords | ⟨elementType, hqueries⟩ | hforwards
  · rw [hrecords.form] at h
    obtain rfl := Option.some.inj h
    exact hrecords.rule
  · rw [hqueries.form] at h
    obtain rfl := Option.some.inj h
    exact hqueries.rule
  · rw [hforwards.form] at h
    exact nomatch h

/-- Only rules that are enabled shape a wrapper. -/
theorem enables_of_mem_appliedRules (h : ofPrototype config p = .ok w) {r : Rule}
    (hr : r ∈ w.appliedRules) : config.rules.enables r = true := by
  obtain ⟨binding, hbinding, rfl⟩ := (ofPrototype_eq_ok_iff config p w).mp h
  rcases mem_appliedRules_iff.mp hr with ⟨b, hb, rfl⟩ | hform
  · rw [(shape_declared config p binding).1] at hb
    exact enables_of_takes ((hbinding b).mp hb)
  · exact enables_of_rule? hform

/-- The shape of a prototype is that of any other rule set which agrees on whether it is
recorded, and otherwise on whether it counts. -/
private theorem shape_congr {binding : Option Binding}
    (hrecorded : p.isRecorded { config with rules } = p.isRecorded config)
    (hcount : p.isRecorded config = false →
      (rules.countQuery = true ↔ config.rules.countQuery = true) ∨
        countQuery? config.naming (bindHandle config.naming p.parameters binding).1 = none) :
    shape { config with rules } p binding = shape config p binding := by
  rw [Prototype.isRecorded, Prototype.isRecorded] at hrecorded
  rw [Prototype.isRecorded] at hcount
  -- whether a prototype counts is only asked if it is not recorded
  cases hrec : config.rules.commandBuffer && recordsCommand config.naming p with
  | true => simp only [shape, hrecorded, hrec, if_true]
  | false =>
    simp only [shape, hrecorded, hrec, Bool.false_eq_true, if_false]
    rcases hcount hrec with hsame | hnone
    · simp only [hsame]
    · simp only [hnone, ite_self]

/-- A wrapper needs no other rules than those that shaped it. -/
theorem ofPrototype_of_enables (h : ofPrototype config p = .ok w)
    (hle : ∀ r, rules.enables r = true → config.rules.enables r = true)
    (happlied : ∀ r ∈ w.appliedRules, rules.enables r = true) :
    ofPrototype { config with rules } p = .ok w := by
  obtain ⟨binding, hbinding, rfl⟩ := (ofPrototype_eq_ok_iff config p w).mp h
  have hrule : ∀ r, (shape config p binding).form.rule? = some r → rules.enables r = true :=
    fun r hr => happlied r (mem_appliedRules_iff.mpr (.inr hr))
  refine (ofPrototype_eq_ok_iff _ p _).mpr ⟨binding, fun b => ?_, (shape_congr ?_ ?_).symm⟩
  · -- the binding that applies is one of the rules that are needed
    rw [hbinding b, takes, takes, Bool.and_eq_true, Bool.and_eq_true]
    refine and_congr_left fun hhas => ⟨fun henabled => ?_, hle b.rule⟩
    have hb := (hbinding b).mpr (Bool.and_eq_true_iff.mpr ⟨henabled, hhas⟩)
    exact happlied _ (mem_appliedRules_iff.mpr
      (.inl ⟨b, (shape_declared config p binding).1.trans hb, rfl⟩))
  · -- a prototype that is recorded needs the rule that records it
    rw [Bool.eq_iff_iff, Prototype.isRecorded, Prototype.isRecorded, Bool.and_eq_true,
      Bool.and_eq_true]
    refine and_congr_left fun hrecords => ⟨hle .commandBuffer, fun henabled => ?_⟩
    have hrecorded : p.isRecorded config = true := Bool.and_eq_true_iff.mpr ⟨henabled, hrecords⟩
    exact hrule .commandBuffer (by rw [form_shape, if_pos hrecorded]; rfl)
  · -- and one that counts needs the rule for that, where it ends in a pair
    intro hrecorded
    cases hpair : countQuery? config.naming
        (bindHandle config.naming p.parameters binding).1 with
    | none => exact .inr rfl
    | some elementType =>
      left
      refine ⟨hle .countQuery, fun henabled => hrule .countQuery ?_⟩
      rw [form_shape, hrecorded, if_neg Bool.false_ne_true, if_pos henabled, hpair]
      rfl

/-- Rules can be switched off without changing a wrapper exactly if they left no label on it. -/
private theorem ofPrototype_without_iff (h : ofPrototype config p = .ok w) (rs : List Rule) :
    ofPrototype (config.without rs) p = .ok w ↔ ∀ r ∈ rs, r.label ∉ w.labels := by
  simp only [label_mem_labels_iff]
  constructor
  · -- a wrapper of the smaller rule set has labels of that set only
    intro hwithout r hr happlied
    have henabled := enables_of_mem_appliedRules hwithout happlied
    exact ((Rules.enables_without _ _ _).mp henabled).2 hr
  · intro hnone
    refine ofPrototype_of_enables h (fun r hr => ((Rules.enables_without _ _ _).mp hr).1) ?_
    intro r happlied
    exact (Rules.enables_without _ _ _).mpr
      ⟨enables_of_mem_appliedRules h happlied, fun hr => hnone r hr happlied⟩

/-- Without rules, a wrapper forwards the call that its prototype declares. -/
theorem ofPrototype_none (config : Config) (p : Prototype) :
    ofPrototype { config with rules := .none } p =
      .ok { name := p.name, declaredName := p.name, returnType := .normalize p.returnType,
            declaredReturnType := p.returnType, parameters := p.parameters, binding := none,
            arguments := p.parameters.names, form := .forward } :=
  rfl

/-- So the wrappers without labels are those that forward what is declared. -/
theorem labels_eq_nil_iff (h : ofPrototype config p = .ok w) :
    w.labels = [] ↔ ofPrototype { config with rules := .none } p = .ok w := by
  have hnone : config.without [.deviceBinding, .instanceBinding, .countQuery, .commandBuffer] =
      { config with rules := .none } := rfl
  rw [← hnone, ofPrototype_without_iff h, List.eq_nil_iff_forall_not_mem]
  constructor
  · exact fun hempty r _ => hempty r.label
  · intro hrules label hlabel
    obtain ⟨r, _, rfl⟩ := List.mem_map.mp hlabel
    exact hrules r (by cases r <;> decide) hlabel

/-- A prototype that is ambiguous stays so, with the same error, unless one of the binding
rules is switched off. -/
private theorem ofPrototype_without_of_ambiguous {e : AmbiguousBinding}
    (h : ofPrototype config p = .error e) (rs : List Rule) :
    ofPrototype (config.without rs) p = .error e ↔
      Rule.deviceBinding ∉ rs ∧ Rule.instanceBinding ∉ rs := by
  obtain ⟨⟨hdevice, hinst, htypes⟩, he⟩ := ofPrototype_eq_error_iff.mp h
  have hd := Rules.enables_without config.rules rs .deviceBinding
  have hi := Rules.enables_without config.rules rs .instanceBinding
  rw [Rules.enables, Rules.enables, and_iff_right hdevice] at hd
  rw [Rules.enables, Rules.enables, and_iff_right hinst] at hi
  -- the types and the error do not depend on rules, so only the two binding rules matter
  rw [ofPrototype_eq_error_iff, and_iff_left (show e = p.ambiguity (config.without rs) from he),
    ← hd, ← hi]
  constructor
  · intro hambiguous
    exact ⟨hambiguous.1, hambiguous.2.1⟩
  · intro henabled
    exact ⟨henabled.1, henabled.2, htypes⟩

/-- A rule whose label a wrapper does not have can be switched off without changing the
wrapper, and no other rule can.  So of all prototypes exactly those notice that some rules
are switched off whose wrapper has a label of one of them, or that were ambiguous and now
are bound by one rule or none. -/
theorem rule_toggles_independent (config : Config) (p : Prototype) :
    (∀ w, ofPrototype config p = .ok w → ∀ r,
      (ofPrototype { config with rules := config.rules.disable r } p = .ok w ↔
        r.label ∉ w.labels)) ∧
    ∀ rs, ofPrototype (config.without rs) p ≠ ofPrototype config p ↔
      (∃ w, ofPrototype config p = .ok w ∧ ∃ r ∈ rs, r.label ∈ w.labels) ∨
        (∃ e, ofPrototype config p = .error e) ∧
          (Rule.deviceBinding ∈ rs ∨ Rule.instanceBinding ∈ rs) := by
  constructor
  · intro w hw r
    have hone := ofPrototype_without_iff hw [r]
    rw [List.forall_mem_singleton] at hone
    exact hone
  · intro rs
    -- a prototype with a wrapper may lose it; one without may get one
    cases hp : ofPrototype config p with
    | ok w => simp [ofPrototype_without_iff hp]
    | error e =>
      rw [ne_eq, ofPrototype_without_of_ambiguous hp, not_and_or, not_not, not_not]
      simp

/-- A count query with a device needs neither the rule for instances nor that for recorded
commands. -/
theorem rule_toggles_independent_of_deviceQuery :
    let p : Prototype := ⟨"vkGetSwapchainImagesKHR", "VkResult",
      ⟨[⟨"device", "VkDevice", none⟩, ⟨"swapchain", "VkSwapchainKHR", none⟩,
        ⟨"pSwapchainImageCount", "uint32_t*", none⟩,
        ⟨"pSwapchainImages", "VkImage*", none⟩]⟩, 1⟩
    ∃ w, ofPrototype {} p = .ok w ∧ w.labels = ["device_bound", "count_query"] ∧
      ofPrototype { rules := Rules.all.disable .commandBuffer } p = .ok w ∧
      ofPrototype { rules := Rules.all.disable .deviceBinding } p ≠ .ok w := by
  intro p
  have hlabels : (shape {} p (some .device)).labels = ["device_bound", "count_query"] := by
    decide +kernel
  refine ⟨shape {} p (some .device), rfl, hlabels, ?_, ?_⟩
  · -- whether a rule matters is read from the labels
    refine ((rule_toggles_independent {} p).1 _ rfl .commandBuffer).mpr ?_
    rw [hlabels]
    decide
  · rw [ne_eq]
    refine fun hsame => ((rule_toggles_independent {} p).1 _ rfl .deviceBinding).mp hsame ?_
    rw [hlabels]
    decide

end Wrapper

end VulkanGen
