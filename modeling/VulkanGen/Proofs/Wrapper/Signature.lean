import VulkanGen.Proofs.Wrapper.Shape

/-!
# Which function a wrapper is

In the generated code a function is told apart from the others of its scope by its
name and the types of its parameters; the scope is the recorder class or the
namespace.  All three can be read off the prototype: handles whose rule is enabled
leave the parameters, the command buffer leaves those of a recorded command, and a
count and its elements leave those of a count query.

## Key results

- `toList_bindHandle`: what binding a handle leaves, without naming the binding
- `form_cases`: the form of a wrapper, read off its prototype
- `parameters_of_ofPrototype`: the parameters that are left in the signature
- `key_of_ofPrototype`: a wrapper is the function that its prototype says
-/

namespace VulkanGen

/-- What tells functions of the generated code apart. -/
structure FunctionKey where
  /-- Whether the function is a method of the recorder class. -/
  isMethod : Bool
  name : String
  types : List String
  deriving DecidableEq, Repr

/-- The function that a wrapper is. -/
def Wrapper.key (w : Wrapper) : FunctionKey :=
  ⟨w.isRecorderMethod, w.name, w.parameters.toList.map (·.type)⟩

namespace Prototype

/-- Whether a prototype becomes a method of the recorder class. -/
def isRecorded (config : Config) (p : Prototype) : Bool :=
  config.rules.commandBuffer && Wrapper.recordsCommand config.naming p

/-- The name of the wrapper of a prototype. -/
def wrapperName (config : Config) (p : Prototype) : String :=
  if p.isRecorded config then Wrapper.methodName config.naming p.name else p.name

/-- Parameters without the first handle of a binding, where its rule is enabled. -/
def withoutHandle (config : Config) (b : Binding) (ps : List Parameter) : List Parameter :=
  if config.rules.enables b.rule then ps.eraseP (·.type == b.type config.naming) else ps

/-- The parameters of a prototype that are not bound. -/
def unbound (config : Config) (p : Prototype) : List Parameter :=
  withoutHandle config .inst (withoutHandle config .device p.parameters.toList)

/-- Whether parameters end in a count and a pointer to the elements, and that matters. -/
def endsInPair (config : Config) (ps : List Parameter) : Bool :=
  config.rules.countQuery && (Wrapper.countQuery? config.naming ⟨ps⟩).isSome

/-- The parameters in the signature of the wrapper of a prototype. -/
def publicParameters (config : Config) (p : Prototype) : List Parameter :=
  if p.isRecorded config then (p.unbound config).tail
  else if endsInPair config (p.unbound config) then (p.unbound config).dropLast.dropLast
  else p.unbound config

/-- The types in the signature of the wrapper of a prototype. -/
def publicTypes (config : Config) (p : Prototype) : List String :=
  let types := (p.unbound config).map (·.type)
  if p.isRecorded config then types.tail
  else if endsInPair config (p.unbound config) then types.dropLast.dropLast
  else types

/-- The function that the wrapper of a prototype is. -/
def key (config : Config) (p : Prototype) : FunctionKey :=
  ⟨p.isRecorded config, p.wrapperName config, p.publicTypes config⟩

/-- The types in a signature are those of its parameters. -/
private theorem publicTypes_eq (config : Config) (p : Prototype) :
    p.publicTypes config = (p.publicParameters config).map (·.type) := by
  rw [publicTypes, publicParameters]
  split
  · exact List.map_tail.symm
  · split
    · rw [List.map_dropLast, List.map_dropLast]
    · rfl

/-- Prototypes that only differ in their lines and return types become the same function. -/
theorem key_congr (config : Config) {p q : Prototype} (hname : p.name = q.name)
    (hparameters : p.parameters = q.parameters) : p.key config = q.key config := by
  cases p
  cases q
  dsimp only at hname hparameters
  rw [hname, hparameters]
  rfl

/-- A handle that no binding takes stays. -/
private theorem withoutHandle_of_not_takes {config : Config} {ps : ParameterList} {b : Binding}
    (h : Wrapper.takes config ps b = false) {qs : List Parameter} (hsub : qs ⊆ ps.toList) :
    withoutHandle config b qs = qs := by
  rw [withoutHandle]
  split
  · next henabled =>
    -- the rule is enabled, so there is no parameter of the type
    have hnone : ps.toList.findIdx? (·.type == b.type config.naming) = none := by
      simpa [Wrapper.takes, henabled, ParameterList.hasType, ParameterList.positionOfType?] using h
    have hother := List.findIdx?_eq_none_iff.mp hnone
    exact List.eraseP_of_forall_not fun q hq => Bool.eq_false_iff.mp (hother q (hsub hq))
  · rfl

/-- The handle that a binding takes is erased. -/
private theorem withoutHandle_of_takes {config : Config} {ps : ParameterList} {b : Binding}
    (h : Wrapper.takes config ps b = true) :
    withoutHandle config b ps.toList =
      (Wrapper.bindHandle config.naming ps (some b)).1.toList := by
  obtain ⟨i, hi, hbound⟩ := Wrapper.boundHandle?_of_takes h
  have henabled : config.rules.enables b.rule = true := by
    rw [Wrapper.takes, Bool.and_eq_true] at h
    exact h.1
  rw [ParameterList.positionOfType?] at hi
  rw [withoutHandle, if_pos henabled, Wrapper.bindHandle_eq, hbound, List.eraseP_eq_eraseIdx, hi]

end Prototype

namespace Wrapper

/-- Binding the handle that applies leaves the parameters that are not bound. -/
theorem toList_bindHandle {config : Config} {p : Prototype} {binding : Option Binding}
    (h : ∀ b, binding = some b ↔ takes config p.parameters b = true) :
    (bindHandle config.naming p.parameters binding).1.toList = p.unbound config := by
  -- a binding that is not the one that applies takes nothing
  have htakes : ∀ b, some b ≠ binding → takes config p.parameters b = false := by
    intro b hb
    rw [Bool.eq_false_iff, ne_eq, ← h b]
    exact Ne.symm hb
  rw [Prototype.unbound]
  cases binding with
  | none =>
    have hdevice := htakes .device (by simp)
    have hinst := htakes .inst (by simp)
    rw [Prototype.withoutHandle_of_not_takes hdevice (List.Subset.refl _),
      Prototype.withoutHandle_of_not_takes hinst (List.Subset.refl _)]
    rfl
  | some b =>
    -- only one binding applies, so leaving out the other handle changes nothing
    have hb := (h b).mp rfl
    cases b with
    | device =>
      have hinst := htakes .inst (by simp)
      have hsub : Prototype.withoutHandle config .device p.parameters.toList ⊆
          p.parameters.toList := by
        rw [Prototype.withoutHandle]
        split
        · exact List.eraseP_subset
        · exact List.Subset.refl _
      rw [Prototype.withoutHandle_of_not_takes hinst hsub, Prototype.withoutHandle_of_takes hb]
    | inst =>
      have hdevice := htakes .device (by simp)
      rw [Prototype.withoutHandle_of_not_takes hdevice (List.Subset.refl _),
        Prototype.withoutHandle_of_takes hb]

/-! ## The form of a wrapper -/

section Form

variable {config : Config} {p : Prototype} {binding : Option Binding}

/-- The form of a wrapper, by the parameters that its handle leaves. -/
theorem form_shape :
    (shape config p binding).form =
      if p.isRecorded config then .recorderMethod
      else match (if config.rules.countQuery then
          countQuery? config.naming (bindHandle config.naming p.parameters binding).1
        else none) with
        | some elementType => .countQuery elementType (!p.returnsVoid)
        | none => .forward := by
  by_cases hrec : (config.rules.commandBuffer && recordsCommand config.naming p) = true
  · have hrecorded : p.isRecorded config = true := hrec
    simp only [shape, if_pos hrec, if_pos hrecorded]
  · have hrecorded : ¬p.isRecorded config = true := hrec
    rw [if_neg hrecorded]
    -- whether a pair is looked for depends on the rule, and both decide between the last two forms
    cases hcount : if config.rules.countQuery then
        countQuery? config.naming (bindHandle config.naming p.parameters binding).1 else none with
    | some elementType => simp only [shape, if_neg hrec, hcount]
    | none => simp only [shape, if_neg hrec, hcount]

/-- A count query is found exactly if the parameters end in a pair. -/
private theorem isSome_countQuery? (config : Config) (ps : ParameterList) :
    (if config.rules.countQuery then countQuery? config.naming ps else none).isSome =
      Prototype.endsInPair config ps.toList := by
  rw [Prototype.endsInPair]
  cases config.rules.countQuery <;> rfl

/-- The form of a wrapper can be read off its prototype. -/
theorem form_cases (h : ∀ b, binding = some b ↔ takes config p.parameters b = true) :
    let bound := bindHandle config.naming p.parameters binding
    let w := shape config p binding
    (p.isRecorded config = true ∧ RecordsCommand config p bound w) ∨
      (p.isRecorded config = false ∧ Prototype.endsInPair config (p.unbound config) = true ∧
        ∃ elementType, QueriesCount config p bound elementType w) ∨
      (p.isRecorded config = false ∧ Prototype.endsInPair config (p.unbound config) = false ∧
        ForwardsCall p bound w) := by
  intro bound w
  -- the conditions are decided in the order in which the form asks for them
  have hform : w.form = _ := form_shape
  have hpair := isSome_countQuery? config bound.1
  rw [show bound.1.toList = p.unbound config from toList_bindHandle h] at hpair
  rcases shape_cases config p binding with hrecords | ⟨elementType, hqueries⟩ | hforwards
  · exact .inl ⟨Bool.and_eq_true_iff.mpr ⟨hrecords.rule, hrecords.records⟩, hrecords⟩
  · right
    left
    -- a prototype that is recorded would be a method
    have hrecorded : p.isRecorded config = false := by
      rw [Bool.eq_false_iff]
      intro hrecorded
      rw [if_pos hrecorded] at hform
      exact nomatch hform.symm.trans hqueries.form
    rw [if_pos hqueries.rule, hqueries.pair] at hpair
    exact ⟨hrecorded, hpair.symm, elementType, hqueries⟩
  · right
    right
    -- what is forwarded is neither recorded nor a query
    rw [show w.form = .forward from hforwards.form] at hform
    split at hform
    · exact nomatch hform
    · next hrecorded =>
      split at hform
      · exact nomatch hform
      · next hnone =>
        rw [hnone] at hpair
        exact ⟨Bool.eq_false_iff.mpr hrecorded, hpair.symm, hforwards⟩

end Form

/-- The parameters that are left in the signature. -/
theorem parameters_of_ofPrototype {config : Config} {p : Prototype} {w : Wrapper}
    (h : ofPrototype config p = .ok w) :
    w.parameters.toList = p.publicParameters config := by
  obtain ⟨binding, hbinding, rfl⟩ := (ofPrototype_eq_ok_iff config p w).mp h
  have hbound := toList_bindHandle hbinding
  rw [Prototype.publicParameters]
  -- in each form the same parameters are taken from what the handle leaves
  rcases form_cases hbinding with ⟨hrecorded, hrecords⟩ |
    ⟨hrecorded, hpair, elementType, hqueries⟩ | ⟨hrecorded, hpair, hforwards⟩
  · rw [hrecords.parameters, hbound, hrecorded, if_pos rfl]
  · rw [hqueries.parameters, hbound, hrecorded, hpair, if_neg Bool.false_ne_true, if_pos rfl]
  · rw [hforwards.parameters, hbound, hrecorded, hpair, if_neg Bool.false_ne_true,
      if_neg Bool.false_ne_true]

/-- A wrapper is the function that its prototype says. -/
theorem key_of_ofPrototype {config : Config} {p : Prototype} {w : Wrapper}
    (h : ofPrototype config p = .ok w) : w.key = p.key config := by
  have htypes := congrArg (List.map (·.type)) (parameters_of_ofPrototype h)
  rw [← Prototype.publicTypes_eq] at htypes
  obtain ⟨binding, hbinding, rfl⟩ := (ofPrototype_eq_ok_iff config p w).mp h
  rw [key, Prototype.key, Prototype.wrapperName, isRecorderMethod, htypes]
  rcases form_cases hbinding with ⟨hrecorded, hrecords⟩ |
    ⟨hrecorded, _, elementType, hqueries⟩ | ⟨hrecorded, _, hforwards⟩
  · rw [hrecords.form, hrecords.name, hrecorded, if_pos rfl]
    rfl
  · rw [hqueries.form, hqueries.name, hrecorded, if_neg Bool.false_ne_true]
    rfl
  · rw [hforwards.form, hforwards.name, hrecorded, if_neg Bool.false_ne_true]
    rfl

end Wrapper

end VulkanGen
