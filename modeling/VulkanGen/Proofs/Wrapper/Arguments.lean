import VulkanGen.Proofs.Wrapper.Shape
import VulkanGen.Wrapper.Code

/-!
# Arguments stay in place

The rules edit two lists: the public parameters lose entries, and the arguments of
the call get entries overwritten.  A call is right when its argument list still has
one entry for every declared parameter, in declared order, with something else only
at the positions that were taken out of the signature.

Wrappers that make a single call keep to this, for every position of the handle.  A
count query keeps to it only where the handle stands in front of the pair: its rule
looks for the pair in the list that the handle has left, but drops the last two
entries of the argument list, which the handle has not left.

## Key results

- `single_call_in_place`: forwarding wrappers and recorder methods pass every
  declared parameter in its place
- `count_query_in_place_iff`: a count query does so iff no handle is bound among the
  last two declared positions
-/

namespace VulkanGen

namespace ParameterList

/-- The parameters at all positions but these, in order. -/
def without (ps : ParameterList) (positions : List Nat) : List Parameter :=
  (ps.toList.zipIdx.filter fun q => !positions.contains q.2).map (·.1)

/-- A parameter list has as many names as parameters. -/
theorem length_names (ps : ParameterList) : ps.names.length = ps.toList.length := by
  simp [names]

/-- Keeping every position from `k` on keeps the list. -/
private theorem map_filter_zipIdx_of_all (keep : Nat → Bool) (xs : List Parameter) (k : Nat)
    (h : ∀ j, k ≤ j → keep j = true) :
    ((xs.zipIdx k).filter fun q => keep q.2).map (·.1) = xs := by
  rw [List.filter_eq_self.mpr fun q hq => h _ (List.le_snd_of_mem_zipIdx hq)]
  exact List.zipIdx_map_fst k xs

/-- Keeping every position but one erases it. -/
private theorem map_filter_zipIdx_of_ne (keep : Nat → Bool) (xs : List Parameter) (k i : Nat)
    (h : ∀ j, k ≤ j → (keep j = true ↔ j ≠ k + i)) :
    ((xs.zipIdx k).filter fun q => keep q.2).map (·.1) = xs.eraseIdx i := by
  -- along the list, with the position counted down to the one that goes
  induction xs generalizing k i with
  | nil => rfl
  | cons x xs ih =>
    rw [List.zipIdx_cons]
    cases i with
    | zero =>
      -- the head goes, and nothing behind it does
      have hk : keep k = false := by simpa using h k (Nat.le_refl k)
      rw [List.filter_cons_of_neg (by simp [hk]), List.eraseIdx_cons_zero]
      exact map_filter_zipIdx_of_all keep xs (k + 1) fun j hj => (h j (by omega)).mpr (by omega)
    | succ i =>
      have hk : keep k = true := (h k (Nat.le_refl k)).mpr (by omega)
      rw [List.filter_cons_of_pos (by simpa using hk), List.map_cons, List.eraseIdx_cons_succ]
      rw [ih (k + 1) i fun j hj => (h j (by omega)).trans (by omega)]

/-- Leaving nothing out keeps the list. -/
private theorem without_nil (ps : ParameterList) : ps.without [] = ps.toList :=
  map_filter_zipIdx_of_all (fun j => !List.contains [] j) ps.toList 0 fun _ _ => rfl

/-- Leaving one position out erases it. -/
private theorem without_singleton (ps : ParameterList) (i : Nat) :
    ps.without [i] = ps.toList.eraseIdx i :=
  map_filter_zipIdx_of_ne (fun j => !List.contains [i] j) ps.toList 0 i fun j _ => by simp

/-- Leaving out position 0 as well takes the head off. -/
private theorem without_zero_cons (ps : ParameterList) (positions : List Nat) (h : 0 ∉ positions) :
    ps.without (0 :: positions) = (ps.without positions).tail := by
  obtain ⟨xs⟩ := ps
  cases xs with
  | nil => rfl
  | cons x xs =>
    simp only [without, List.zipIdx_cons, Nat.zero_add]
    rw [List.filter_cons_of_neg (by simp), List.filter_cons_of_pos (by simpa using h),
      List.map_cons, List.tail_cons]
    -- behind the head no position is 0
    refine congrArg _ (List.filter_congr fun q hq => ?_)
    have hpos := List.le_snd_of_mem_zipIdx hq
    have hne : (q.2 == 0) = false := beq_eq_false_iff_ne.mpr (by omega)
    rw [List.contains_cons, hne, Bool.false_or]

end ParameterList

namespace Wrapper

/-! ## Two lists in step -/

/-- The arguments of a call and the parameters of its signature are in step with the
declared parameters: the call passes `substitutions` at their positions and the
declared names elsewhere, and the signature lacks those positions only. -/
structure InStep (ps : ParameterList) (substitutions : List (Nat × String))
    (arguments : List String) (parameters : List Parameter) : Prop where
  length : arguments.length = ps.length
  distinct : (substitutions.map (·.1)).Nodup
  substituted : ∀ i v, (i, v) ∈ substitutions → arguments[i]? = some v
  declared : ∀ i, i ∉ substitutions.map (·.1) → arguments[i]? = ps.names[i]?
  parameters : parameters = ps.without (substitutions.map (·.1))

/-- Binding a handle keeps the two lists in step. -/
theorem inStep_bindHandle (naming : Naming) (ps : ParameterList) (binding : Option Binding) :
    InStep ps (boundHandle? naming ps binding).toList (bindHandle naming ps binding).2
      (bindHandle naming ps binding).1.toList := by
  rw [bindHandle_eq]
  cases hb : boundHandle? naming ps binding with
  | none =>
    exact ⟨ps.length_names, List.nodup_nil, fun i v h => (nomatch h), fun _ _ => rfl,
      ps.without_nil.symm⟩
  | some bound =>
    obtain ⟨i, v⟩ := bound
    have hlt : i < ps.names.length := ps.length_names ▸ boundHandle?_lt hb
    -- one argument is overwritten and one parameter erased, at the same position
    constructor
    · exact List.length_set.trans ps.length_names
    · exact List.pairwise_singleton _ i
    · intro j u hju
      obtain ⟨rfl, rfl⟩ := Prod.mk.inj (List.mem_singleton.mp hju)
      exact List.getElem?_set_self hlt
    · intro j hj
      exact List.getElem?_set_ne fun h => hj (List.mem_singleton.mpr h.symm)
    · exact (ps.without_singleton i).symm

/-- Dropping the first parameter and overwriting the first argument keeps them in step,
unless position 0 was taken before. -/
private theorem InStep.drop_first {ps : ParameterList} {substitutions : List (Nat × String)}
    {arguments : List String} {parameters : List Parameter}
    (h : InStep ps substitutions arguments parameters) (hpos : 0 < ps.length)
    (hfree : 0 ∉ substitutions.map (·.1)) (field : String) :
    InStep ps ((0, field) :: substitutions) (arguments.set 0 field) parameters.tail := by
  have hlt : 0 < arguments.length := h.length ▸ hpos
  constructor
  · rw [List.length_set, h.length]
  · rw [List.map_cons, List.nodup_cons]
    exact ⟨hfree, h.distinct⟩
  · intro i v hiv
    rcases List.mem_cons.mp hiv with hhead | htail
    · -- the field itself; the others are at other positions
      obtain ⟨rfl, rfl⟩ := Prod.mk.inj hhead
      exact List.getElem?_set_self hlt
    · have hi : 0 ≠ i := fun h0 => hfree (h0 ▸ List.mem_map_of_mem htail)
      rw [List.getElem?_set_ne hi, h.substituted i v htail]
  · intro i hi
    rw [List.map_cons, List.mem_cons, not_or] at hi
    rw [List.getElem?_set_ne (Ne.symm hi.1), h.declared i hi.2]
  · -- the signature lacks position 0 besides the positions that it lacked
    rw [h.parameters, List.map_cons, ParameterList.without_zero_cons ps _ hfree]

/-! ## Wrappers that make one call -/

/-- The declared positions at which a wrapper that makes one call passes something of
its own: the recorder's field for the command buffer of a recorder method, and a
variable for the parameter of a bound handle. -/
def substitutions (naming : Naming) (p : Prototype) (w : Wrapper) : List (Nat × String) :=
  (if w.isRecorderMethod then [(0, naming.recorderField)] else []) ++
    (boundHandle? naming p.parameters w.binding).toList

/-- A recorder method takes the command buffer first. -/
theorem first_of_recordsCommand {naming : Naming} {p : Prototype}
    (h : recordsCommand naming p = true) :
    ∃ q, p.parameters.toList[0]? = some q ∧ q.type = naming.commandBufferType := by
  simp only [recordsCommand, Bool.and_eq_true, List.head?_eq_getElem?, Option.any_eq_true,
    beq_iff_eq] at h
  exact h.2

/-- The handle of a recorder method does not stand first: the command buffer does. -/
theorem position_ne_zero_of_recordsCommand {naming : Naming} {p : Prototype}
    {binding : Option Binding} (hd : naming.commandBufferType ≠ naming.deviceType)
    (hi : naming.commandBufferType ≠ naming.instanceType)
    (hrec : recordsCommand naming p = true) :
    0 ∉ (boundHandle? naming p.parameters binding).toList.map (·.1) := by
  intro hmem
  obtain ⟨⟨i, v⟩, hbound, rfl⟩ := List.mem_map.mp hmem
  obtain ⟨b, _, hpos, _⟩ := boundHandle?_eq_some (Option.mem_toList.mp hbound)
  obtain ⟨q, hq, hhandle⟩ := ParameterList.type_of_positionOfType? hpos
  obtain ⟨q', hq', hbuffer⟩ := first_of_recordsCommand hrec
  obtain rfl : q = q' := Option.some.inj (hq.symm.trans hq')
  have hne : naming.commandBufferType ≠ b.type naming := by cases b <;> assumption
  exact hne (hbuffer.symm.trans hhandle)

/-- Forwarding wrappers and recorder methods pass every declared parameter in its
place.  Where a binding applies, it is that of the first parameter of its type. -/
theorem single_call_in_place (config : Config) (p : Prototype) (w : Wrapper)
    (hdevice : config.naming.commandBufferType ≠ config.naming.deviceType)
    (hinstance : config.naming.commandBufferType ≠ config.naming.instanceType)
    (h : ofPrototype config p = .ok w)
    (hform : ∀ elementType status, w.form ≠ .countQuery elementType status) :
    InStep p.parameters (substitutions config.naming p w) w.arguments w.parameters.toList ∧
      (∀ b, w.binding = some b ↔ takes config p.parameters b = true) ∧
      (∀ b, w.binding = some b → ∃ i, p.parameters.positionOfType? (b.type config.naming) = some i ∧
        (i, b.variableName config.naming) ∈ substitutions config.naming p w) ∧
      w.declaredName = p.name ∧ w.declaredReturnType = p.returnType := by
  obtain ⟨binding, hbinding, rfl⟩ := (ofPrototype_eq_ok_iff config p w).mp h
  obtain ⟨hb, hname, hreturn⟩ := shape_declared config p binding
  have hstep := inStep_bindHandle config.naming p.parameters binding
  refine ⟨?_, fun b => by rw [hb]; exact hbinding b, fun b hsome => ?_, hname, hreturn⟩
  · -- a recorder method has lost its first parameter as well
    rw [substitutions, hb]
    rcases shape_cases config p binding with hrec | ⟨elementType, hquery⟩ | hforward
    · obtain ⟨q, hq, _⟩ := first_of_recordsCommand hrec.records
      have hpos : 0 < p.parameters.length := (List.getElem?_eq_some_iff.mp hq).1
      -- the command buffer is first, and the bound handle is of another type, so it is not
      rw [hrec.arguments, hrec.parameters, if_pos hrec.isRecorderMethod]
      exact hstep.drop_first hpos
        (position_ne_zero_of_recordsCommand hdevice hinstance hrec.records) _
    · exact absurd hquery.form (hform _ _)
    · have hmethod : (shape config p binding).isRecorderMethod = false := by
        rw [isRecorderMethod, hforward.form]; rfl
      rw [hforward.arguments, hforward.parameters, hmethod]
      exact hstep
  · obtain ⟨i, hpos, hbound⟩ := boundHandle?_of_takes ((hbinding b).mp (hb.symm.trans hsome))
    refine ⟨i, hpos, List.mem_append_right _ (Option.mem_toList.mpr ?_)⟩
    rw [hsome, hbound]

/-- A command that takes its device behind another parameter. -/
theorem single_call_in_place_of_device_behind :
    let p : Prototype := ⟨"vkCmdFillVK", "void",
      ⟨[⟨"commandBuffer", "VkCommandBuffer", none⟩, ⟨"size", "uint32_t", none⟩,
        ⟨"device", "VkDevice", none⟩, ⟨"parent", "VkDevice", none⟩]⟩, 7⟩
    ∃ w, ofPrototype {} p = .ok w ∧ w.arguments = ["_command_buffer", "size", "device_", "parent"] ∧
      InStep p.parameters (substitutions {} p w) w.arguments w.parameters.toList := by
  intro p
  refine ⟨shape {} p (some .device), rfl, by decide, ?_⟩
  have hform : (shape {} p (some .device)).form = .recorderMethod := by decide
  exact (single_call_in_place {} p _ (by decide) (by decide) rfl
    (fun _ _ h => nomatch hform.symm.trans h)).1

/-! ## Count queries -/

/-- The declared position of what stands at position `i` once the handle has left. -/
def declaredPosition (handle : Option (Nat × String)) (i : Nat) : Nat :=
  match handle with
  | none => i
  | some (h, _) => if i < h then i else i + 1

/-- The declared position of the parameter that is `k` places from the end once the
handle has left: with `k = 2` the count of a count query, with `k = 1` its elements. -/
def positionFromEnd (naming : Naming) (p : Prototype) (w : Wrapper) (k : Nat) : Nat :=
  let handle := boundHandle? naming p.parameters w.binding
  declaredPosition handle (p.parameters.length - handle.toList.length - k)

/-- The declared parameters that a count query takes for its count and its elements. -/
def MatchedPair (naming : Naming) (p : Prototype) (w : Wrapper) (elementType : String) : Prop :=
  ∃ count elements : Parameter,
    p.parameters.toList[positionFromEnd naming p w 2]? = some count ∧
    p.parameters.toList[positionFromEnd naming p w 1]? = some elements ∧
    count.type = naming.countType ∧ Text.endsWith naming.countSuffix count.name = true ∧
    elements.isPointer = true ∧ elementType = .ofList elements.type.toList.dropLast

/-- A call of a count query, with `data` for its elements, passes at every declared
position what belongs there: the variable of the bound handle, the count, the elements,
or the declared parameter, which the signature then has. -/
structure CallInPlace (naming : Naming) (p : Prototype) (w : Wrapper) (data : String) : Prop where
  length : (w.passedArguments data).length = p.parameters.length
  handle : ∀ i v, boundHandle? naming p.parameters w.binding = some (i, v) →
    (w.passedArguments data)[i]? = some v
  count : (w.passedArguments data)[positionFromEnd naming p w 2]? = some "&count"
  elements : (w.passedArguments data)[positionFromEnd naming p w 1]? = some data
  declared : ∀ i q, p.parameters.toList[i]? = some q →
    (∀ v, boundHandle? naming p.parameters w.binding ≠ some (i, v)) →
    i ≠ positionFromEnd naming p w 2 → i ≠ positionFromEnd naming p w 1 →
    (w.passedArguments data)[i]? = some q.name ∧ q ∈ w.parameters.toList

/-- What stands at a position once the handle has left. -/
private theorem getElem?_bindHandle (naming : Naming) (ps : ParameterList)
    (binding : Option Binding) (i : Nat) :
    (bindHandle naming ps binding).1.toList[i]? =
      ps.toList[declaredPosition (boundHandle? naming ps binding) i]? := by
  rw [bindHandle_eq]
  cases boundHandle? naming ps binding with
  | none => rfl
  | some bound =>
    simp only [declaredPosition, List.getElem?_eraseIdx]
    split <;> rfl

/-- Every declared parameter but the handle is left by it, at a position that tells where it
was declared. -/
theorem exists_getElem?_bindHandle {naming : Naming} {ps : ParameterList}
    {binding : Option Binding} {i : Nat} {q : Parameter} (hq : ps.toList[i]? = some q)
    (hhandle : ∀ v, boundHandle? naming ps binding ≠ some (i, v)) :
    ∃ j, declaredPosition (boundHandle? naming ps binding) j = i ∧
      (bindHandle naming ps binding).1.toList[j]? = some q := by
  have hposition : ∃ j, declaredPosition (boundHandle? naming ps binding) j = i := by
    cases hbound : boundHandle? naming ps binding with
    | none => exact ⟨i, rfl⟩
    | some bound =>
      -- parameters behind the handle have moved up by one
      have hne : i ≠ bound.1 := fun hi => hhandle bound.2 (by rw [hbound, hi])
      by_cases hi : i < bound.1
      · exact ⟨i, if_pos hi⟩
      · exact ⟨i - 1, (if_neg (by omega)).trans (by omega)⟩
  obtain ⟨j, hj⟩ := hposition
  exact ⟨j, hj, by rw [getElem?_bindHandle, hj, hq]⟩

/-- The first parameter stays the first one if it is not the handle. -/
theorem declaredPosition_zero {handle : Option (Nat × String)}
    (h : ∀ bound ∈ handle, bound.1 ≠ 0) : declaredPosition handle 0 = 0 := by
  cases handle with
  | none => rfl
  | some bound => exact if_pos (Nat.pos_of_ne_zero (h bound rfl))

/-- What is declared in front of the last two of `n` parameters, as the handle is, stays in
front of the last two. -/
theorem lt_of_declaredPosition_lt {handle : Option (Nat × String)} {n j : Nat}
    (hj : declaredPosition handle j < n - 2) (h : ∀ bound ∈ handle, bound.1 < n - 2) :
    j < n - handle.toList.length - 2 := by
  cases handle with
  | none => exact hj
  | some bound =>
    have hbound := h bound rfl
    rw [declaredPosition] at hj
    rw [Option.toList_some, List.length_singleton]
    split at hj <;> omega

/-- Binding a handle leaves one parameter less, if there is a handle. -/
theorem length_bindHandle (naming : Naming) (ps : ParameterList) (binding : Option Binding) :
    (bindHandle naming ps binding).1.toList.length =
      ps.length - (boundHandle? naming ps binding).toList.length := by
  rw [bindHandle_eq]
  cases hb : boundHandle? naming ps binding with
  | none => rfl
  | some bound => exact List.length_eraseIdx_of_lt (boundHandle?_lt hb)

/-- A count query matches the last two parameters that the handle leaves. -/
private theorem matchedPair_of_countQuery {config : Config} {p : Prototype} {w : Wrapper}
    {elementType : String}
    (h : QueriesCount config p (bindHandle config.naming p.parameters w.binding) elementType w) :
    MatchedPair config.naming p w elementType ∧
      2 ≤ (bindHandle config.naming p.parameters w.binding).1.toList.length := by
  have hpair := h.pair
  simp only [countQuery?, bind, Option.bind_eq_some_iff] at hpair
  obtain ⟨count, hcount, elements, helements, hguard⟩ := hpair
  obtain ⟨hguard, helementType⟩ := Option.ite_none_right_eq_some.mp hguard
  -- the pair is found from the end of what the handle leaves
  obtain ⟨h2, hcount⟩ := ParameterList.getAt?_neg _ 2 (-2) (by decide) (by decide) _ hcount
  obtain ⟨_, helements⟩ := ParameterList.getAt?_neg _ 1 (-1) (by decide) (by decide) _ helements
  rw [getElem?_bindHandle, length_bindHandle] at hcount helements
  simp only [Bool.and_eq_true, beq_iff_eq] at hguard
  exact ⟨⟨count, elements, hcount, helements, hguard.1.1, hguard.1.2, hguard.2,
    (Option.some.inj helementType).symm⟩, h2⟩

/-- The arguments of a call: those of the bound list up to the last two positions, and
then the count and the elements. -/
private theorem getElem?_passedArguments {config : Config} {p : Prototype} {w : Wrapper}
    {elementType : String} (data : String)
    (h : QueriesCount config p (bindHandle config.naming p.parameters w.binding) elementType w)
    (hlen : 2 ≤ p.parameters.length) :
    (w.passedArguments data).length = p.parameters.length ∧
      (∀ i, i + 2 < p.parameters.length → (w.passedArguments data)[i]? =
        (bindHandle config.naming p.parameters w.binding).2[i]?) ∧
      (w.passedArguments data)[p.parameters.length - 2]? = some "&count" ∧
      (w.passedArguments data)[p.parameters.length - 1]? = some data := by
  have hstep := (inStep_bindHandle config.naming p.parameters w.binding).length
  -- the last two arguments are cut off, and two others come in their places
  have htake : w.arguments.length = p.parameters.length - 2 := by
    rw [h.arguments, List.length_take, hstep]
    omega
  simp only [passedArguments]
  refine ⟨?_, fun i hi => ?_, ?_, ?_⟩
  · rw [List.length_append, htake]
    simp only [List.length_cons, List.length_nil]
    omega
  · rw [List.getElem?_append_left (by omega), h.arguments, List.getElem?_take_of_lt (by omega)]
  · rw [List.getElem?_append_right (by omega), htake, Nat.sub_self]
    rfl
  · rw [List.getElem?_append_right (by omega), htake,
      show p.parameters.length - 1 - (p.parameters.length - 2) = 1 by omega]
    rfl

/-- A declared parameter that is neither the handle nor one of the pair stays in the
signature of a count query. -/
private theorem mem_parameters_of_countQuery {config : Config} {p : Prototype} {w : Wrapper}
    {elementType : String}
    (h : QueriesCount config p (bindHandle config.naming p.parameters w.binding) elementType w)
    {i : Nat} {q : Parameter} (hq : p.parameters.toList[i]? = some q)
    (hhandle : ∀ v, boundHandle? config.naming p.parameters w.binding ≠ some (i, v))
    (hcount : i ≠ positionFromEnd config.naming p w 2)
    (helements : i ≠ positionFromEnd config.naming p w 1) : q ∈ w.parameters.toList := by
  obtain ⟨j, hj, hbound⟩ := exists_getElem?_bindHandle hq hhandle
  have hlt := (List.getElem?_eq_some_iff.mp hbound).1
  have hlen := length_bindHandle config.naming p.parameters w.binding
  -- the parameter is not one of the last two of those that are bound, so it is not dropped
  have h2 : j ≠ (bindHandle config.naming p.parameters w.binding).1.toList.length - 2 := by
    rintro rfl
    exact hcount (by rw [← hj, hlen]; rfl)
  have h1 : j ≠ (bindHandle config.naming p.parameters w.binding).1.toList.length - 1 := by
    rintro rfl
    exact helements (by rw [← hj, hlen]; rfl)
  exact h.mem_parameters hbound (by omega)

/-- With no handle among the last two declared positions the pair stands there. -/
private theorem positionFromEnd_of_handle_before {naming : Naming} {p : Prototype} {w : Wrapper}
    (hlen : 2 ≤ p.parameters.length)
    (hbefore : ∀ i v, boundHandle? naming p.parameters w.binding = some (i, v) →
      i + 2 < p.parameters.length) :
    positionFromEnd naming p w 2 = p.parameters.length - 2 ∧
      positionFromEnd naming p w 1 = p.parameters.length - 1 := by
  cases hb : boundHandle? naming p.parameters w.binding with
  | none => exact ⟨by simp [positionFromEnd, declaredPosition, hb],
      by simp [positionFromEnd, declaredPosition, hb]⟩
  | some bound =>
    have hlt := hbefore bound.1 bound.2 hb
    simp only [positionFromEnd, declaredPosition, hb, Option.toList_some, List.length_singleton]
    exact ⟨(if_neg (by omega)).trans (by omega), (if_neg (by omega)).trans (by omega)⟩

/-- With the handle in front of the pair, each call passes everything in its place. -/
private theorem callInPlace_of_handle_before {config : Config} {p : Prototype} {w : Wrapper}
    {elementType : String} (data : String)
    (h : QueriesCount config p (bindHandle config.naming p.parameters w.binding) elementType w)
    (hlen : 2 ≤ p.parameters.length)
    (hbefore : ∀ i v, boundHandle? config.naming p.parameters w.binding = some (i, v) →
      i + 2 < p.parameters.length) : CallInPlace config.naming p w data := by
  have hstep := inStep_bindHandle config.naming p.parameters w.binding
  obtain ⟨hlength, hfront, hcount, helements⟩ := getElem?_passedArguments data h hlen
  obtain ⟨hpos2, hpos1⟩ := positionFromEnd_of_handle_before hlen hbefore
  constructor
  · exact hlength
  · -- in front of the pair the arguments are those of the bound list
    intro i v hb
    rw [hfront i (hbefore i v hb), hstep.substituted i v (Option.mem_toList.mpr hb)]
  · rw [hpos2, hcount]
  · rw [hpos1, helements]
  · -- any other parameter is passed by its name
    intro i q hq hhandle h2 h1
    refine ⟨?_, mem_parameters_of_countQuery h hq hhandle h2 h1⟩
    have hlt : i < p.parameters.length := (List.getElem?_eq_some_iff.mp hq).1
    rw [hpos2] at h2
    rw [hpos1] at h1
    rw [hfront i (by omega), hstep.declared i ?_, ParameterList.names, List.getElem?_map, hq]
    · rfl
    · intro hmem
      obtain ⟨⟨j, v⟩, hbound, rfl⟩ := List.mem_map.mp hmem
      exact hhandle v (Option.mem_toList.mp hbound)

/-- A handle among the last two declared positions is lost: the count or the elements
are passed in its place. -/
private theorem handle_before_of_callInPlace {config : Config} {p : Prototype} {w : Wrapper}
    {elementType : String} {data : String}
    (h : QueriesCount config p (bindHandle config.naming p.parameters w.binding) elementType w)
    (hlen : 2 ≤ p.parameters.length) (hcall : CallInPlace config.naming p w data)
    {i : Nat} {v : String} (hb : boundHandle? config.naming p.parameters w.binding = some (i, v))
    (hv : v ≠ "&count") (hdata : v ≠ data) : i + 2 < p.parameters.length := by
  obtain ⟨_, _, hcount, helements⟩ := getElem?_passedArguments data h hlen
  have hlt : i < p.parameters.length := boundHandle?_lt hb
  have hhandle := hcall.handle i v hb
  -- at these two positions the call passes something else than the variable
  have hne2 : i ≠ p.parameters.length - 2 := by
    rintro rfl
    exact hv (Option.some.inj (hhandle.symm.trans hcount))
  have hne1 : i ≠ p.parameters.length - 1 := by
    rintro rfl
    exact hdata (Option.some.inj (hhandle.symm.trans helements))
  omega

/-- Both calls of a count query pass every declared parameter in its place exactly if no
handle is bound at one of the last two declared positions. -/
theorem count_query_in_place_iff (maxWidth : Nat) (rules : Rules) (p : Prototype) (w : Wrapper)
    (elementType : String) (status : Bool) (h : ofPrototype ⟨maxWidth, {}, rules⟩ p = .ok w)
    (hform : w.form = .countQuery elementType status) :
    (∀ b, w.binding = some b ↔ takes ⟨maxWidth, {}, rules⟩ p.parameters b = true) ∧
      MatchedPair {} p w elementType ∧
      ((∀ data ∈ ["nullptr", "result.value.data()"], CallInPlace {} p w data) ↔
        ∀ i v, boundHandle? {} p.parameters w.binding = some (i, v) →
          i + 2 < p.parameters.length) := by
  obtain ⟨binding, hbinding, hw⟩ := (ofPrototype_eq_ok_iff _ p w).mp h
  have hb : w.binding = binding := hw ▸ (shape_declared _ p binding).1
  have hcases := shape_cases ⟨maxWidth, {}, rules⟩ p binding
  rw [← hw, ← hb] at hcases
  rcases hcases with hrec | ⟨matched, hquery⟩ | hforward
  · exact nomatch hrec.form.symm.trans hform
  · obtain ⟨rfl, _⟩ := Wrapper.Form.countQuery.inj (hquery.form.symm.trans hform)
    obtain ⟨hpair, h2⟩ := matchedPair_of_countQuery hquery
    have hlen : 2 ≤ p.parameters.length :=
      Nat.le_trans (length_bindHandle _ _ _ ▸ h2) (Nat.sub_le _ _)
    refine ⟨fun b => by rw [hb]; exact hbinding b, hpair, ?_, ?_⟩
    · -- one of the two calls is enough: no variable is passed for the elements
      intro hcalls i v hbound
      obtain ⟨b, _, _, rfl⟩ := boundHandle?_eq_some hbound
      refine handle_before_of_callInPlace hquery hlen (hcalls "nullptr" (by simp)) hbound ?_ ?_ <;>
        cases b <;> decide
    · intro hbefore data _
      exact callInPlace_of_handle_before data hquery hlen hbefore
  · exact nomatch hforward.form.symm.trans hform

/-- A device behind another parameter and in front of the pair. -/
theorem count_query_in_place_of_device_before :
    let p : Prototype := ⟨"vkGetImages", "VkResult",
      ⟨[⟨"swapchain", "VkSwapchainKHR", none⟩, ⟨"device", "VkDevice", none⟩,
        ⟨"pImageCount", "uint32_t*", none⟩, ⟨"pImages", "VkImage*", none⟩]⟩, 7⟩
    ∃ w, ofPrototype ⟨120, {}, {}⟩ p = .ok w ∧ w.form = .countQuery "VkImage" true ∧
      w.passedArguments "nullptr" = ["swapchain", "device_", "&count", "nullptr"] ∧
      CallInPlace {} p w "nullptr" := by
  intro p
  have hform : (shape {} p (some .device)).form = .countQuery "VkImage" true := by decide +kernel
  have hbound : boundHandle? {} p.parameters (shape {} p (some .device)).binding =
      some (1, "device_") := by decide +kernel
  refine ⟨shape {} p (some .device), rfl, hform, by decide +kernel, ?_⟩
  refine (count_query_in_place_iff 120 {} p _ _ _ rfl hform).2.2.mpr ?_ _ (by simp)
  -- the device stands at position 1, in front of the last two
  intro i v h
  obtain ⟨rfl, rfl⟩ := Prod.mk.inj (Option.some.inj (hbound.symm.trans h))
  decide

/-- A device behind the pair is lost: the count is passed for the elements, and the
elements for the device, while the name of the count is no parameter any more. -/
theorem count_query_loses_device_behind :
    let p : Prototype := ⟨"vkGetImages", "VkResult",
      ⟨[⟨"pImageCount", "uint32_t*", none⟩, ⟨"pImages", "VkImage*", none⟩,
        ⟨"device", "VkDevice", none⟩]⟩, 1⟩
    ∃ w, ofPrototype {} p = .ok w ∧ w.form = .countQuery "VkImage" true ∧
      w.parameters.toList = [] ∧
      w.passedArguments "nullptr" = ["pImageCount", "&count", "nullptr"] ∧
      ¬ CallInPlace {} p w "nullptr" := by
  intro p
  have hpassed : (shape {} p (some .device)).passedArguments "nullptr" =
      ["pImageCount", "&count", "nullptr"] := by decide +kernel
  refine ⟨shape {} p (some .device), rfl, by decide +kernel, by decide +kernel, hpassed, ?_⟩
  -- the call would have to pass the device third, where the data stands
  intro hcall
  have hdevice := hcall.handle 2 "device_" (by decide +kernel)
  rw [hpassed] at hdevice
  exact absurd hdevice (by decide)

end Wrapper

end VulkanGen
