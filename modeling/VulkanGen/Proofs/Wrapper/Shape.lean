import Mathlib.Data.List.Forall2
import VulkanGen.Proofs.Parameter.Steps
import VulkanGen.Wrapper

/-!
# What a wrapper can be

`Wrapper.ofPrototype` runs four rules over a prototype.  This file says once what
can come out of them, so that no later proof opens the rules again: which binding
applies, what the two lists are behind it, and which of the three forms a wrapper
has, with its parameters and its arguments.

## Key results

- `binding?_eq_ok_iff`: the binding of a prototype is the one that applies to it
- `bindHandle_eq`: binding a handle erases one position and overwrites the same one
- `ofPrototype_eq_ok_iff`: a wrapper is the shape of a prototype with its binding
- `shape_cases`: a wrapper records a command, queries a count or forwards a call
- `declaredNames_of_ofPrototypes`: wrappers keep the declared names
-/

namespace VulkanGen

namespace ParameterList

/-- Removing at index 0 takes the head off. -/
private theorem toList_removeAt_zero (ps : ParameterList) :
    (ps.removeAt 0).2.toList = ps.toList.tail := by
  have h0 : (0 : Int64).toInt = 0 := by decide
  rw [ParameterStep.removeAt_eq_plain, h0]
  exact List.eraseIdx_zero

/-- Removing at index -1 takes the last parameter off. -/
private theorem toList_removeAt_neg_one (ps : ParameterList) :
    (ps.removeAt (-1)).2.toList = ps.toList.dropLast := by
  have h1 : (-1 : Int64).toInt = -1 := by decide
  rw [ParameterStep.removeAt_eq_plain, h1]
  -- seen from its other end, the list loses its head
  change (ps.toList.reverse.eraseIdx 0).reverse = _
  rw [List.eraseIdx_zero, List.tail_reverse, List.reverse_reverse]

/-- A parameter at a negative index is found from the end. -/
theorem getAt?_neg (ps : ParameterList) (k : Nat) (index : Int64)
    (hindex : index.toInt = -(k : Int)) (hk : 0 < k) (p : Parameter)
    (h : ps.getAt? index = some p) :
    k ≤ ps.toList.length ∧ ps.toList[ps.toList.length - k]? = some p := by
  obtain ⟨before, behind, hlist, hbefore⟩ := (getAt?_eq_some_iff index p).mp h
  rw [hindex, if_pos (by omega), length] at hbefore
  have hlength : ps.toList.length - k = before.length := by omega
  rw [hlength, hlist]
  exact ⟨by rw [← hlist]; omega, by simp⟩

/-- The position of a type lies in the list. -/
private theorem positionOfType?_lt {ps : ParameterList} {type : String} {i : Nat}
    (h : ps.positionOfType? type = some i) : i < ps.toList.length := by
  obtain ⟨before, p, behind, hlist, rfl, _⟩ := (positionOfType?_eq_some_iff type i).mp h
  simp [hlist]

/-- At the position of a type stands a parameter of that type. -/
theorem type_of_positionOfType? {ps : ParameterList} {type : String} {i : Nat}
    (h : ps.positionOfType? type = some i) :
    ∃ q, ps.toList[i]? = some q ∧ q.type = type := by
  obtain ⟨before, p, behind, hlist, rfl, htype, _⟩ := (positionOfType?_eq_some_iff type i).mp h
  exact ⟨p, by simp [hlist], htype⟩

end ParameterList

namespace Wrapper

/-- The position of the parameter that a binding takes, and the variable that is
passed in its place. -/
def boundHandle? (naming : Naming) (ps : ParameterList) (binding : Option Binding) :
    Option (Nat × String) :=
  binding.bind fun b => (ps.positionOfType? (b.type naming)).map (·, b.variableName naming)

/-- The binding of a prototype is the one that applies; with two there is none. -/
theorem binding?_eq_ok_iff (config : Config) (p : Prototype) (binding : Option Binding) :
    binding? config p = .ok binding ↔
      ∀ b, binding = some b ↔ takes config p.parameters b = true := by
  have hboth : ∀ P : Binding → Prop, (∀ b, P b) ↔ P .device ∧ P .inst := fun P =>
    ⟨fun h => ⟨h _, h _⟩, fun h b => by cases b with
      | device => exact h.1
      | inst => exact h.2⟩
  rw [hboth]
  -- each binding may apply or not, and the answer is one of three
  cases hd : takes config p.parameters .device <;>
    cases hi : takes config p.parameters .inst <;>
    rcases binding with _ | _ | _ <;> simp [binding?, hd, hi]

/-- A binding that applies finds its parameter. -/
theorem boundHandle?_of_takes {config : Config} {ps : ParameterList} {b : Binding}
    (h : takes config ps b = true) :
    ∃ i, ps.positionOfType? (b.type config.naming) = some i ∧
      boundHandle? config.naming ps (some b) = some (i, b.variableName config.naming) := by
  simp only [takes, ParameterList.hasType, Bool.and_eq_true] at h
  obtain ⟨i, hi⟩ := Option.isSome_iff_exists.mp h.2
  exact ⟨i, hi, by simp [boundHandle?, hi]⟩

/-- A bound position lies in the list and has the type of a handle. -/
theorem boundHandle?_eq_some {naming : Naming} {ps : ParameterList} {binding : Option Binding}
    {i : Nat} {v : String} (h : boundHandle? naming ps binding = some (i, v)) :
    ∃ b, binding = some b ∧ ps.positionOfType? (b.type naming) = some i ∧
      v = b.variableName naming := by
  obtain ⟨b, hb, hm⟩ := Option.bind_eq_some_iff.mp h
  obtain ⟨j, hj, hjv⟩ := Option.map_eq_some_iff.mp hm
  obtain ⟨rfl, rfl⟩ := Prod.mk.inj hjv
  exact ⟨b, hb, hj, rfl⟩

/-- A bound position is one of the list. -/
theorem boundHandle?_lt {naming : Naming} {ps : ParameterList} {binding : Option Binding}
    {i : Nat} {v : String} (h : boundHandle? naming ps binding = some (i, v)) :
    i < ps.toList.length := by
  obtain ⟨b, _, hpos, _⟩ := boundHandle?_eq_some h
  exact ParameterList.positionOfType?_lt hpos

/-- Binding a handle erases its position from the parameters and overwrites the
same position of the arguments. -/
theorem bindHandle_eq (naming : Naming) (ps : ParameterList) (binding : Option Binding) :
    bindHandle naming ps binding =
      match boundHandle? naming ps binding with
      | none => (ps, ps.names)
      | some (i, v) => (⟨ps.toList.eraseIdx i⟩, ps.names.set i v) := by
  cases binding with
  | none => rfl
  | some b =>
    simp only [bindHandle, boundHandle?, Option.bind_some, ParameterList.removeType]
    cases hpos : ps.positionOfType? (b.type naming) with
    | none => rfl
    | some i =>
      -- the position is in the list, so the argument there can be overwritten
      have hlt := ParameterList.positionOfType?_lt hpos
      simp [List.getElem?_eq_getElem hlt]

/-- A wrapper is the shape of a prototype with the binding that applies to it. -/
theorem ofPrototype_eq_ok_iff (config : Config) (p : Prototype) (w : Wrapper) :
    ofPrototype config p = .ok w ↔
      ∃ binding, (∀ b, binding = some b ↔ takes config p.parameters b = true) ∧
        w = shape config p binding := by
  simp only [ofPrototype, ← binding?_eq_ok_iff]
  cases hb : binding? config p with
  | error e => simp [Except.map]
  | ok binding => simp [Except.map, eq_comm]

/-- The rules leave the binding and the two declared names alone. -/
theorem shape_declared (config : Config) (p : Prototype) (binding : Option Binding) :
    (shape config p binding).binding = binding ∧
      (shape config p binding).declaredName = p.name ∧
      (shape config p binding).declaredReturnType = p.returnType := by
  simp only [shape]
  split
  · exact ⟨rfl, rfl, rfl⟩
  · split <;> exact ⟨rfl, rfl, rfl⟩

/-- What a recorder method is made of: the first parameter of the bound list is
dropped, and the recorder's field is passed at position 0. -/
structure RecordsCommand (config : Config) (p : Prototype)
    (bound : ParameterList × List String) (w : Wrapper) : Prop where
  form : w.form = .recorderMethod
  rule : config.rules.commandBuffer = true
  records : recordsCommand config.naming p = true
  name : w.name = methodName config.naming p.name
  returnType : w.returnType = .normalize p.returnType
  parameters : w.parameters.toList = bound.1.toList.tail
  arguments : w.arguments = bound.2.set 0 config.naming.recorderField

/-- What a count query is made of: the pair at the end of the bound list is
dropped, and so are the last two arguments, whatever they are. -/
structure QueriesCount (config : Config) (p : Prototype)
    (bound : ParameterList × List String) (elementType : String) (w : Wrapper) : Prop where
  form : w.form = .countQuery elementType (!p.returnsVoid)
  rule : config.rules.countQuery = true
  pair : countQuery? config.naming bound.1 = some elementType
  name : w.name = p.name
  returnType : w.returnType = .normalize s!"std::vector<{elementType}>"
  parameters : w.parameters.toList = bound.1.toList.dropLast.dropLast
  arguments : w.arguments = bound.2.take (bound.2.length - 2)

/-- What a forwarding wrapper is made of: the bound lists as they are. -/
structure ForwardsCall (p : Prototype) (bound : ParameterList × List String)
    (w : Wrapper) : Prop where
  form : w.form = .forward
  name : w.name = p.name
  returnType : w.returnType = .normalize p.returnType
  parameters : w.parameters = bound.1
  arguments : w.arguments = bound.2

section Kept

variable {config : Config} {p : Prototype} {bound : ParameterList × List String} {w : Wrapper}
  {j : Nat} {q : Parameter}

/-- A wrapper that records a command is a method. -/
theorem RecordsCommand.isRecorderMethod (h : RecordsCommand config p bound w) :
    w.isRecorderMethod = true := by
  rw [Wrapper.isRecorderMethod, h.form]
  rfl

/-- It keeps all parameters but the first one. -/
theorem RecordsCommand.mem_parameters (h : RecordsCommand config p bound w)
    (hq : bound.1.toList[j]? = some q) (hj : j ≠ 0) : q ∈ w.parameters.toList := by
  rw [h.parameters]
  refine List.mem_of_getElem? (i := j - 1) ?_
  rw [List.getElem?_tail, Nat.sub_add_cancel (Nat.pos_of_ne_zero hj), hq]

/-- A count query keeps all parameters but the last two. -/
theorem QueriesCount.mem_parameters {elementType : String}
    (h : QueriesCount config p bound elementType w) (hq : bound.1.toList[j]? = some q)
    (hj : j < bound.1.toList.length - 2) : q ∈ w.parameters.toList := by
  rw [h.parameters]
  refine List.mem_of_getElem? (i := j) ?_
  rw [List.getElem?_dropLast, List.getElem?_dropLast, List.length_dropLast,
    if_pos (by omega), if_pos (by omega), hq]

end Kept

/-- A wrapper records a command, queries a count or forwards a call. -/
theorem shape_cases (config : Config) (p : Prototype) (binding : Option Binding) :
    let bound := bindHandle config.naming p.parameters binding
    RecordsCommand config p bound (shape config p binding) ∨
      (∃ elementType, QueriesCount config p bound elementType (shape config p binding)) ∨
      ForwardsCall p bound (shape config p binding) := by
  intro bound
  -- a command is recorded whatever its last parameters are
  by_cases hrec : (config.rules.commandBuffer && recordsCommand config.naming p) = true
  · left
    have ⟨hrule, hrecords⟩ := Bool.and_eq_true_iff.mp hrec
    simp only [shape, if_pos hrec]
    exact ⟨rfl, hrule, hrecords, rfl, rfl, ParameterList.toList_removeAt_zero _, rfl⟩
  · -- the pair is looked for in the parameters that the handle leaves
    right
    cases hcount : if config.rules.countQuery then countQuery? config.naming bound.1 else none with
    | some elementType =>
      left
      have ⟨hrule, hpair⟩ := Option.ite_none_right_eq_some.mp hcount
      simp only [bound] at hcount
      simp only [shape, if_neg hrec, hcount]
      refine ⟨elementType, rfl, hrule, hpair, rfl, rfl, ?_, rfl⟩
      rw [ParameterList.toList_removeAt_neg_one, ParameterList.toList_removeAt_neg_one]
    | none =>
      right
      simp only [bound] at hcount
      simp only [shape, if_neg hrec, hcount]
      exact ⟨rfl, rfl, rfl, rfl, rfl⟩

/-- Wrappers are made one by one, each from its prototype. -/
theorem forall₂_of_ofPrototypes {config : Config} {ps : List Prototype} {ws : List Wrapper}
    (h : ofPrototypes config ps = .ok ws) :
    List.Forall₂ (fun p w => ofPrototype config p = .ok w) ps ws := by
  induction ps generalizing ws with
  | nil =>
    cases h
    exact .nil
  | cons p ps ih =>
    rw [ofPrototypes, List.mapM_cons] at h
    -- the first prototype without a wrapper would have stopped everything
    cases hp : ofPrototype config p with
    | error e => simp [hp, bind, Except.bind] at h
    | ok w =>
      cases hps : ps.mapM (ofPrototype config) with
      | error e => simp [hp, hps, bind, Except.bind] at h
      | ok rest =>
        simp only [hp, hps, bind, Except.bind, pure, Except.pure, Except.ok.injEq] at h
        rw [← h]
        exact .cons hp (ih hps)

/-- What each wrapper has from its prototype, the wrappers have from the prototypes. -/
theorem map_eq_of_ofPrototypes {α : Type} {f : Wrapper → α} {k : Prototype → α} {config : Config}
    {ps : List Prototype} {ws : List Wrapper}
    (hf : ∀ p w, ofPrototype config p = .ok w → f w = k p)
    (h : ofPrototypes config ps = .ok ws) : ws.map f = ps.map k := by
  have hall := forall₂_of_ofPrototypes h
  clear h
  induction hall with
  | nil => rfl
  | cons hp _ ih => rw [List.map_cons, List.map_cons, hf _ _ hp, ih]

/-- Each of the wrappers is made from one of the prototypes. -/
theorem exists_of_mem_ofPrototypes {config : Config} {ps : List Prototype} {ws : List Wrapper}
    (h : ofPrototypes config ps = .ok ws) {w : Wrapper} (hw : w ∈ ws) :
    ∃ p ∈ ps, ofPrototype config p = .ok w := by
  have hall := forall₂_of_ofPrototypes h
  -- the wrappers and the prototypes are listed side by side, so the induction is on both
  clear h
  induction hall with
  | nil => exact nomatch hw
  | @cons p v ps ws hp _ ih =>
    rcases List.mem_cons.mp hw with hw | hw
    · exact ⟨p, List.mem_cons_self, hw ▸ hp⟩
    · obtain ⟨q, hq, hqw⟩ := ih hw
      exact ⟨q, List.mem_cons_of_mem p hq, hqw⟩

/-- A wrapper keeps the declared name of its prototype. -/
theorem declaredName_of_ofPrototype {config : Config} {p : Prototype} {w : Wrapper}
    (h : ofPrototype config p = .ok w) : w.declaredName = p.name := by
  obtain ⟨binding, _, rfl⟩ := (ofPrototype_eq_ok_iff config p w).mp h
  exact (shape_declared config p binding).2.1

/-- The wrappers of prototypes keep their declared names, in order. -/
theorem declaredNames_of_ofPrototypes {config : Config} {ps : List Prototype} {ws : List Wrapper}
    (h : ofPrototypes config ps = .ok ws) : ws.map (·.declaredName) = ps.map (·.name) :=
  map_eq_of_ofPrototypes (fun _ _ => declaredName_of_ofPrototype) h

end Wrapper

end VulkanGen
