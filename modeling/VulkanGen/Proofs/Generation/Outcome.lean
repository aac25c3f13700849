import VulkanGen.Proofs.FunctionTable.Layout
import VulkanGen.Proofs.Generation.MoreHeaders

/-!
# When there is a generation

Three things can stand in the way of a generation, and they are looked for in this
order: there is no header at all, the bootstrap function is not in the core of the
first header, or one of that header's prototypes takes both handles while both binding
rules are enabled.  Everything else is left out, skipped or diagnosed, so a header that
is broken elsewhere, or any header behind the first, never forbids a generation.

## Key results

- `Wrapper.ofPrototype_eq_error_iff`: a prototype has no wrapper iff it is ambiguous
- `Wrapper.ofPrototypes_eq_error_iff`: of several prototypes the first ambiguous one counts
- `Generation.ofHeaders_outcome`: the outcome for every list of headers
-/

namespace VulkanGen

/-- A parameter list has a type if one of its parameters is of that type. -/
private theorem ParameterList.hasType_iff (ps : ParameterList) (type : String) :
    ps.hasType type = true ↔ ∃ q ∈ ps.toList, q.type = type := by
  simp [hasType, positionOfType?]

/-- Whether a prototype takes both handles while both binding rules are enabled. -/
def Prototype.Ambiguous (config : Config) (p : Prototype) : Prop :=
  config.rules.deviceBinding = true ∧ config.rules.instanceBinding = true ∧
    (∃ q ∈ p.parameters.toList, q.type = config.naming.deviceType) ∧
    ∃ q ∈ p.parameters.toList, q.type = config.naming.instanceType

/-- Whether a prototype is ambiguous can be decided. -/
instance (config : Config) (p : Prototype) : Decidable (p.Ambiguous config) :=
  inferInstanceAs (Decidable (_ ∧ _ ∧ _ ∧ _))

/-- What is said about an ambiguous prototype. -/
def Prototype.ambiguity (config : Config) (p : Prototype) : AmbiguousBinding :=
  ⟨p.name, config.naming.deviceType, config.naming.instanceType⟩

namespace Wrapper

variable {config : Config} {p : Prototype} {ps : List Prototype} {e : AmbiguousBinding}

/-- A prototype is ambiguous iff both bindings apply to it. -/
private theorem ambiguous_iff_takes :
    p.Ambiguous config ↔
      takes config p.parameters .device = true ∧ takes config p.parameters .inst = true := by
  simp only [Prototype.Ambiguous, takes, Rules.enables, Binding.rule, Binding.type,
    Bool.and_eq_true, ParameterList.hasType_iff]
  constructor
  · rintro ⟨hd, hi, hdevice, hinst⟩
    exact ⟨⟨hd, hdevice⟩, hi, hinst⟩
  · rintro ⟨⟨hd, hdevice⟩, hi, hinst⟩
    exact ⟨hd, hi, hdevice, hinst⟩

/-- A prototype has no wrapper iff it is ambiguous. -/
theorem ofPrototype_eq_error_iff :
    ofPrototype config p = .error e ↔ p.Ambiguous config ∧ e = p.ambiguity config := by
  rw [ambiguous_iff_takes]
  -- only where both bindings apply is there an error
  cases hd : takes config p.parameters .device <;> cases hi : takes config p.parameters .inst <;>
    simp [ofPrototype, binding?, hd, hi, Except.map, Prototype.ambiguity, eq_comm]

/-- A prototype has a wrapper iff it is not ambiguous. -/
private theorem exists_ofPrototype_iff :
    (∃ w, ofPrototype config p = .ok w) ↔ ¬p.Ambiguous config := by
  cases hp : ofPrototype config p with
  | error e => simp [(ofPrototype_eq_error_iff.mp hp).1]
  | ok w =>
    have hno : ¬p.Ambiguous config := by
      intro hambiguous
      have herror := ofPrototype_eq_error_iff.mpr ⟨hambiguous, rfl⟩
      exact nomatch hp.symm.trans herror
    simp [hno]

/-- Prototypes have no wrappers iff one of them is ambiguous, and what is said is said
about the first one that is. -/
theorem ofPrototypes_eq_error_iff :
    ofPrototypes config ps = .error e ↔
      ∃ p, ps.find? (fun p => decide (p.Ambiguous config)) = some p ∧ e = p.ambiguity config := by
  induction ps with
  | nil => simp [ofPrototypes, pure, Except.pure]
  | cons p ps ih =>
    rw [ofPrototypes] at ih ⊢
    rw [List.mapM_cons]
    by_cases hp : p.Ambiguous config
    · -- the first prototype stops everything
      have herror := ofPrototype_eq_error_iff.mpr ⟨hp, rfl⟩
      simp only [herror, bind, Except.bind, List.find?_cons, decide_eq_true hp]
      simp [eq_comm]
    · -- the first prototype has a wrapper, so the others decide
      obtain ⟨w, hw⟩ := exists_ofPrototype_iff.mpr hp
      rw [List.find?_cons, decide_eq_false hp, ← ih]
      cases ps.mapM (ofPrototype config) <;> simp [hw, bind, Except.bind, pure, Except.pure]

/-- The prototypes in front of the ambiguous one that is named are not ambiguous. -/
private theorem ofPrototypes_eq_error_iff_first :
    ofPrototypes config ps = .error e ↔
      ∃ before p after, ps = before ++ p :: after ∧ (∀ q ∈ before, ¬q.Ambiguous config) ∧
        p.Ambiguous config ∧ e = p.ambiguity config := by
  rw [ofPrototypes_eq_error_iff]
  constructor
  · intro ⟨p, hfind, he⟩
    obtain ⟨hp, before, after, heq, hbefore⟩ := List.find?_eq_some_iff_append.mp hfind
    refine ⟨before, p, after, heq, fun q hq => ?_, of_decide_eq_true hp, he⟩
    exact of_decide_eq_false ((Bool.not_eq_true' _).mp (hbefore q hq))
  · intro ⟨before, p, after, heq, hbefore, hp, he⟩
    refine ⟨p, List.find?_eq_some_iff_append.mpr ⟨decide_eq_true hp, before, after, heq, ?_⟩, he⟩
    intro q hq
    rw [decide_eq_false (hbefore q hq), Bool.not_false]

/-- Prototypes have wrappers iff none of them is ambiguous. -/
private theorem exists_ofPrototypes_iff :
    (∃ ws, ofPrototypes config ps = .ok ws) ↔ ∀ p ∈ ps, ¬p.Ambiguous config := by
  have hnone : (∀ p ∈ ps, ¬p.Ambiguous config) ↔
      ps.find? (fun p => decide (p.Ambiguous config)) = none := by
    simp [List.find?_eq_none]
  rw [hnone]
  -- there are wrappers or an error, and an error names an ambiguous prototype
  cases hws : ofPrototypes config ps with
  | error e =>
    obtain ⟨p, hp, _⟩ := ofPrototypes_eq_error_iff.mp hws
    simp [hp]
  | ok ws =>
    have hfind : ps.find? (fun p => decide (p.Ambiguous config)) = none := by
      rw [Option.eq_none_iff_forall_ne_some]
      intro p hp
      have herror := ofPrototypes_eq_error_iff.mpr ⟨p, hp, rfl⟩
      exact nomatch hws.symm.trans herror
    simp [hfind]

end Wrapper

namespace Generation

variable {config : Config}

/-- Without headers nothing is generated. -/
private theorem ofHeaders_nil : ofHeaders config [] = .error (.table .noHeaders) := rfl

/-- Without the bootstrap function in the core of the first header nothing is generated. -/
private theorem ofHeaders_of_not_inCore {core : Header} (later : List Header)
    (h : ¬FunctionTable.InCore core.parse config.naming.bootstrapFunction) :
    ofHeaders config (core :: later) =
      .error (.table (.missingBootstrap config.naming.bootstrapFunction)) :=
  ofHeaders_of_build_error (FunctionTable.build_of_not_inCore h (later.map Header.parse))

/-- With it, the wrappers of the first header decide. -/
private theorem ofHeaders_of_inCore {core : Header} (later : List Header)
    (h : FunctionTable.InCore core.parse config.naming.bootstrapFunction) :
    ∃ table, ofHeaders config (core :: later) =
      match Wrapper.ofPrototypes config core.parse.prototypes with
      | .error e => .error (.binding e)
      | .ok ws => .ok (assemble config ((core :: later).map Header.parse) table ws) :=
  ⟨_, ofHeaders_of_build_ok (FunctionTable.build_of_inCore h (later.map Header.parse))⟩

/-- There is a generation iff there is a header, the bootstrap function is in its core,
and none of its prototypes is ambiguous.  Otherwise the error names the first of these
that fails; of several ambiguous prototypes it names the first.  Nothing else that the
headers hold matters. -/
theorem ofHeaders_outcome (config : Config) (headers : List Header) :
    ((∃ g, ofHeaders config headers = .ok g) ↔
      ∃ core later, headers = core :: later ∧
        FunctionTable.InCore core.parse config.naming.bootstrapFunction ∧
        ∀ p ∈ core.parse.prototypes, ¬p.Ambiguous config) ∧
    (ofHeaders config headers = .error (.table .noHeaders) ↔ headers = []) ∧
    (∀ name, ofHeaders config headers = .error (.table (.missingBootstrap name)) ↔
      name = config.naming.bootstrapFunction ∧
        ∃ core later, headers = core :: later ∧
          ¬FunctionTable.InCore core.parse config.naming.bootstrapFunction) ∧
    (∀ e, ofHeaders config headers = .error (.binding e) ↔
      ∃ core later, headers = core :: later ∧
        FunctionTable.InCore core.parse config.naming.bootstrapFunction ∧
        ∃ before p after, core.parse.prototypes = before ++ p :: after ∧
          (∀ q ∈ before, ¬q.Ambiguous config) ∧ p.Ambiguous config ∧
          e = ⟨p.name, config.naming.deviceType, config.naming.instanceType⟩) := by
  cases headers with
  | nil => simp [ofHeaders_nil]
  | cons core later =>
    -- the core header is the only one that the conditions speak about
    simp only [List.cons.injEq, ↓existsAndEq, true_and, exists_and_right, and_true]
    -- the table is built before the wrappers, so its error comes first
    by_cases hcore : FunctionTable.InCore core.parse config.naming.bootstrapFunction
    · obtain ⟨table, houtcome⟩ := ofHeaders_of_inCore later hcore
      rw [houtcome, ← Wrapper.exists_ofPrototypes_iff]
      -- with a table, an error is one about the first ambiguous prototype
      have hfirst (e : AmbiguousBinding) :
          Wrapper.ofPrototypes config core.parse.prototypes = .error e ↔ _ :=
        Wrapper.ofPrototypes_eq_error_iff_first
      simp only [exists_and_right, Prototype.ambiguity] at hfirst
      simp only [hcore, true_and, not_true, ← hfirst]
      cases Wrapper.ofPrototypes config core.parse.prototypes <;> simp
    · rw [ofHeaders_of_not_inCore later hcore]
      simp [hcore, eq_comm]

end Generation

end VulkanGen
