import VulkanGen.Parameter.Step
import VulkanGen.Proofs.List.Basic

/-!
# Parameter lists behave like plain lists

A parameter list resolves an index to a position first and then works with positions
from the front; a plain list reads a negative index from its other end.  Both come to
the same, for every index that a 64-bit word can hold: either they hit the same
element, or both miss.  So a step has the same result on a parameter list and on the
plain list of its parameters, and leaves the same list behind, and what holds of one
step holds of any sequence of steps.

## Key results

- `ParameterList.resolveWord?_eq`: 64-bit words resolve an index without overflow
- `ParameterList.getAt?_eq_some_iff`: what stands at an index
- `ParameterStep.run_eq_plain`: a step has the same outcome on a plain list
- `ParameterList.steps_refine_plain`: indices, removals and sequences of steps
-/

namespace VulkanGen

namespace ParameterList

variable (ps : ParameterList)

/-! ## Indices in words -/

/-- A length that fits into a word is the same number there. -/
private theorem toInt_ofNat_length (h : ps.length ≤ Int64.maxValue.toInt) :
    (Int64.ofNat ps.length).toInt = ps.length :=
  Int64.toInt_ofNat_of_lt (Nat.lt_of_le_of_lt (Int.ofNat_le.mp h) (by decide))

/-- A length and a negative index add up without overflow, down to the least index. -/
private theorem toInt_length_add (h : ps.length ≤ Int64.maxValue.toInt) {index : Int64}
    (hneg : index.toInt < 0) :
    (Int64.ofNat ps.length + index).toInt = ps.length + index.toInt := by
  have hlow := index.le_toInt
  have hmax : Int64.maxValue.toInt = 9223372036854775807 := by decide
  rw [Int64.toInt_add, toInt_ofNat_length ps h]
  -- the sum lies between the least word and the length
  exact Int.bmod_eq_of_le (by omega) (by omega)

/-- Found in words, the position of an index is the one that exact arithmetic finds. -/
theorem resolveWord?_eq (h : ps.length ≤ Int64.maxValue.toInt) (index : Int64) :
    ps.resolveWord? index = ps.resolve? index := by
  have hlength := toInt_ofNat_length ps h
  have hzero : (0 : Int64).toInt = 0 := rfl
  have hposition : (if index < 0 then Int64.ofNat ps.length + index else index).toInt =
      if index.toInt < 0 then ps.length + index.toInt else index.toInt := by
    simp only [Int64.lt_iff_toInt_lt, hzero]
    split
    · next hneg => exact toInt_length_add ps h hneg
    · rfl
  -- both test the same position for its range, one of them in words
  simp only [resolveWord?, resolve?, Int64.le_iff_toInt_le, Int64.lt_iff_toInt_lt, hzero,
    hlength] at hposition ⊢
  rw [hposition, Int64.toNatClampNeg, hposition]

/-! ## What stands at an index -/

variable {ps}

/-- A parameter is hit by its position and by its distance from the end. -/
private theorem resolve?_of_split {before behind : List Parameter} {p : Parameter}
    (hlist : ps.toList = before ++ p :: behind) {index : Int64}
    (hindex : (before.length : Int) =
      if index.toInt < 0 then ps.length + index.toInt else index.toInt) :
    ps.resolve? index = some before.length := by
  have hlength : ps.length = before.length + (behind.length + 1) := by
    rw [length, hlist, List.length_append, List.length_cons]
  rw [resolve?_eq_some_iff]
  split at hindex <;> omega

/-- What stands at an index has as many parameters before it as the index says, or its
distance from the end where it is negative. -/
theorem getAt?_eq_some_iff (index : Int64) (p : Parameter) :
    ps.getAt? index = some p ↔
      ∃ before behind, ps.toList = before ++ p :: behind ∧
        (before.length : Int) =
          if index.toInt < 0 then ps.length + index.toInt else index.toInt := by
  rw [getAt?, Option.bind_eq_some_iff]
  constructor
  · rintro ⟨i, hr, hp⟩
    obtain ⟨hi, rfl⟩ := List.getElem?_eq_some_iff.mp hp
    -- the list is split at the position that the index is resolved to
    refine ⟨ps.toList.take i, ps.toList.drop (i + 1), ?_, ?_⟩
    · rw [List.getElem_cons_drop, List.take_append_drop]
    · rw [resolve?_eq_some_iff, length] at hr
      rw [List.length_take, length]
      split <;> omega
  · rintro ⟨before, behind, hlist, hindex⟩
    exact ⟨before.length, resolve?_of_split hlist hindex, by simp [hlist]⟩

/-- An index that is out of range has nothing at it. -/
private theorem getAt?_eq_none_iff (index : Int64) :
    ps.getAt? index = none ↔ index.toInt < -ps.length ∨ ps.length ≤ index.toInt := by
  rw [← resolve?_eq_none_iff, getAt?]
  cases hr : ps.resolve? index with
  | none => simp
  | some i => simp [lt_length_of_resolve? hr]

/-! ## Removals -/

/-- With nothing at an index the list stays as it is. -/
private theorem removeAt_of_getAt?_eq_none {index : Int64} (h : ps.getAt? index = none) :
    ps.removeAt index = (none, ps) := by
  rw [getAt?_eq_none_iff, ← resolve?_eq_none_iff] at h
  simp only [removeAt, h]

/-- What stands at an index is taken out, and all else keeps its order. -/
private theorem removeAt_of_split {before behind : List Parameter} {p : Parameter}
    (hlist : ps.toList = before ++ p :: behind) {index : Int64}
    (hindex : (before.length : Int) =
      if index.toInt < 0 then ps.length + index.toInt else index.toInt) :
    ps.removeAt index = (some p, ⟨before ++ behind⟩) := by
  simp only [removeAt, resolve?_of_split hlist hindex]
  rw [hlist, List.eraseIdx_length_append, List.getElem?_append_right (Nat.le_refl _), Nat.sub_self,
    List.getElem?_cons_zero]

/-- The position of a type is that of its first parameter. -/
theorem positionOfType?_eq_some_iff (type : String) (i : Nat) :
    ps.positionOfType? type = some i ↔
      ∃ before p behind, ps.toList = before ++ p :: behind ∧ before.length = i ∧
        p.type = type ∧ ∀ q ∈ before, q.type ≠ type := by
  rw [positionOfType?, List.findIdx?_eq_some_iff_getElem]
  constructor
  · rintro ⟨hi, htype, hbefore⟩
    refine ⟨ps.toList.take i, ps.toList[i], ps.toList.drop (i + 1), ?_, ?_, ?_, ?_⟩
    · rw [List.getElem_cons_drop, List.take_append_drop]
    · exact List.length_take_of_le (Nat.le_of_lt hi)
    · exact beq_iff_eq.mp htype
    · -- a parameter of the type further up would have been found first
      intro q hq heq
      obtain ⟨j, hj, rfl⟩ := List.mem_take_iff_getElem.mp hq
      exact hbefore j (by omega) (beq_iff_eq.mpr heq)
  · rintro ⟨before, p, behind, hlist, rfl, htype, hbefore⟩
    have hlt : before.length < ps.toList.length := by
      rw [hlist, List.length_append, List.length_cons]
      omega
    refine ⟨hlt, ?_, fun j hj => ?_⟩
    · simp [hlist, htype]
    · simpa [hlist, hj] using hbefore _ (List.getElem_mem hj)

/-- Without a parameter of a type the list stays as it is. -/
private theorem removeType_of_eq_none {type : String} (h : ps.positionOfType? type = none) :
    ps.removeType type = (none, ps) := by
  simp only [removeType, h]

/-- The first parameter of a type is taken out together with its position. -/
private theorem removeType_of_split {before behind : List Parameter} {p : Parameter}
    (hlist : ps.toList = before ++ p :: behind)
    (h : ps.positionOfType? p.type = some before.length) :
    ps.removeType p.type = (some (before.length, p), ⟨before ++ behind⟩) := by
  simp only [removeType, h]
  rw [hlist, List.eraseIdx_length_append, List.getElem?_append_right (Nat.le_refl _), Nat.sub_self,
    List.getElem?_cons_zero, Option.map_some]

end ParameterList

namespace ParameterStep

open ParameterList

variable (ps : ParameterList)

/-! ## Steps on plain lists -/

/-- Seen from the other end, an element stands behind those that it stood before. -/
private theorem plainGet?_split (before behind : List Parameter) (p : Parameter) {index : Int}
    (hindex : (before.length : Int) =
      if index < 0 then (before ++ p :: behind).length + index else index) :
    plainGet? (before ++ p :: behind) index = some p ∧
      plainErase (before ++ p :: behind) index = before ++ behind := by
  rw [List.length_append, List.length_cons] at hindex
  split at hindex
  · -- from the end, the reversed list is split at the same parameter
    next hneg =>
    have hk : (-index).toNat - 1 = behind.reverse.length := by
      rw [List.length_reverse]
      omega
    have hreverse : (before ++ p :: behind).reverse = behind.reverse ++ p :: before.reverse := by
      simp
    rw [plainGet?, plainErase, if_neg (by omega), if_neg (by omega), hk, hreverse,
      List.eraseIdx_length_append]
    simp
  · -- from the front, the index is the position itself
    have hi : index.toNat = before.length := by omega
    rw [plainGet?, plainErase, if_pos (by omega), if_pos (by omega), hi,
      List.eraseIdx_length_append]
    simp

/-- On either side of its range an index misses a plain list. -/
private theorem plainGet?_of_out_of_range {xs : List Parameter} {index : Int}
    (h : index < -xs.length ∨ xs.length ≤ index) :
    plainGet? xs index = none ∧ plainErase xs index = xs := by
  rw [plainGet?, plainErase]
  -- behind the end of the list, or of the reversed one
  by_cases hneg : 0 ≤ index
  · have hle : xs.length ≤ index.toNat := by omega
    rw [if_pos hneg, if_pos hneg]
    exact ⟨List.getElem?_eq_none hle, List.eraseIdx_of_length_le hle⟩
  · have hle : xs.reverse.length ≤ (-index).toNat - 1 := by
      rw [List.length_reverse]
      omega
    rw [if_neg hneg, if_neg hneg, List.eraseIdx_of_length_le hle, List.reverse_reverse]
    exact ⟨List.getElem?_eq_none hle, rfl⟩

/-- Looking up and removing at an index are what they are on a plain list. -/
theorem removeAt_eq_plain (index : Int64) :
    ps.removeAt index =
      (plainGet? ps.toList index.toInt, ⟨plainErase ps.toList index.toInt⟩) := by
  -- an index hits a parameter of the list or misses it, and so it does on the plain one
  cases hp : ps.getAt? index with
  | none =>
    obtain ⟨hget, herase⟩ := plainGet?_of_out_of_range ((getAt?_eq_none_iff index).mp hp)
    rw [removeAt_of_getAt?_eq_none hp, hget, herase]
  | some p =>
    obtain ⟨before, behind, hlist, hindex⟩ := (getAt?_eq_some_iff index p).mp hp
    rw [removeAt_of_split hlist hindex]
    rw [length, hlist] at hindex
    obtain ⟨hget, herase⟩ := plainGet?_split before behind p hindex
    rw [hlist, hget, herase]

/-- The position of a type is where a plain list finds it. -/
private theorem positionOfType?_eq_plain (type : String) :
    ps.positionOfType? type = (plainFind? ps.toList type).map (·.1) := by
  rw [positionOfType?, List.findIdx?_eq_fst_find?_zipIdx, plainFind?, Option.map_map]
  rfl

/-- What a plain list finds stands at the position that is found with it. -/
private theorem getElem?_of_plainFind? {xs : List Parameter} {type : String} {i : Nat}
    {p : Parameter} (h : plainFind? xs type = some (i, p)) : xs[i]? = some p := by
  obtain ⟨found, hfound, heq⟩ := Option.map_eq_some_iff.mp h
  cases heq
  exact List.mem_zipIdx_iff_getElem?.mp (List.mem_of_find?_eq_some hfound)

/-- Looking a parameter up by type is what it is on a plain list. -/
private theorem ofType?_eq_plain (type : String) :
    ps.ofType? type = (plainFind? ps.toList type).map (·.2) := by
  rw [ofType?, List.find?_eq_bind_findIdx?_getElem?, ← positionOfType?, positionOfType?_eq_plain]
  cases hfind : plainFind? ps.toList type with
  | none => rfl
  | some found => exact getElem?_of_plainFind? hfind

/-- Removing by type is what it is on a plain list. -/
private theorem removeType_eq_plain (type : String) :
    ps.removeType type = (plainFind? ps.toList type, ⟨ps.toList.eraseP (·.type == type)⟩) := by
  -- erasing the first parameter of a type is erasing its position
  have herase : ps.toList.eraseP (·.type == type) = (ps.removeType type).2.toList := by
    rw [List.eraseP_eq_eraseIdx, toList_removeType, positionOfType?]
    cases List.findIdx? (·.type == type) ps.toList <;> rfl
  have hposition := positionOfType?_eq_plain ps type
  rw [herase]
  cases hfind : plainFind? ps.toList type with
  | none =>
    rw [hfind, Option.map_none] at hposition
    rw [removeType_of_eq_none hposition]
  | some found =>
    rw [hfind, Option.map_some] at hposition
    simp only [ParameterList.removeType, hposition, getElem?_of_plainFind? hfind, Option.map_some]

/-- A step on a parameter list has the result that it has on the plain list of the
parameters, and leaves the same list behind. -/
theorem run_eq_plain (step : ParameterStep) :
    step.run ps = ((step.runPlain ps.toList).1, ⟨(step.runPlain ps.toList).2⟩) := by
  cases step with
  | push p => rfl
  | getAt index => rw [run, runPlain, ← removeAt_fst, removeAt_eq_plain]
  | removeAt index => rw [run, runPlain, removeAt_eq_plain]
  | ofType type => rw [run, runPlain, ofType?_eq_plain]
  | positionOfType type => rw [run, runPlain, positionOfType?_eq_plain]
  | removeType type => rw [run, runPlain, removeType_eq_plain]

/-- So does any sequence of steps. -/
private theorem runAll_eq_plain (steps : List ParameterStep) :
    runAll ps steps =
      ((runAllPlain ps.toList steps).1, ⟨(runAllPlain ps.toList steps).2⟩) := by
  induction steps generalizing ps with
  | nil => rfl
  | cons step steps ih => simp only [runAll, runAllPlain, run_eq_plain, ih]

end ParameterStep

namespace ParameterList

/-- Parameter lists refine plain lists.  Every index of 64 bits is resolved without
overflow; it misses the list below minus its length and from its length on, for a lookup
and for a removal alike, and otherwise it means the parameter that so many others stand
before, counted from the end where it is negative.  A removal takes that parameter out,
or the first one of a type, and nothing else; a removal that fails changes nothing.  So
any sequence of steps gives the results that it gives on a plain list, and leaves the
same list behind. -/
theorem steps_refine_plain (ps : ParameterList) :
    (∀ index : Int64,
      (ps.length ≤ Int64.maxValue.toInt → ps.resolveWord? index = ps.resolve? index ∧
        (index < 0 → (Int64.ofNat ps.length + index).toInt = ps.length + index.toInt)) ∧
      (ps.getAt? index = none ↔ index.toInt < -ps.length ∨ ps.length ≤ index.toInt) ∧
      (ps.getAt? index = none → ps.removeAt index = (none, ps)) ∧
      ∀ p, ps.getAt? index = some p → ∃ before behind,
        ps.toList = before ++ p :: behind ∧
        (before.length : Int) = (if index.toInt < 0 then ps.length + index.toInt else index.toInt) ∧
        ps.removeAt index = (some p, ⟨before ++ behind⟩)) ∧
    (∀ type : String,
      (ps.positionOfType? type = none ↔ ∀ p ∈ ps.toList, p.type ≠ type) ∧
      (ps.positionOfType? type = none → ps.removeType type = (none, ps)) ∧
      ∀ i, ps.positionOfType? type = some i → ∃ before p behind,
        ps.toList = before ++ p :: behind ∧ before.length = i ∧ p.type = type ∧
        (∀ q ∈ before, q.type ≠ type) ∧
        ps.removeType type = (some (i, p), ⟨before ++ behind⟩)) ∧
    ∀ steps : List ParameterStep, ParameterStep.runAll ps steps =
      ((ParameterStep.runAllPlain ps.toList steps).1,
        ⟨(ParameterStep.runAllPlain ps.toList steps).2⟩) := by
  refine ⟨fun index => ⟨fun hlength => ⟨resolveWord?_eq ps hlength index, fun hneg => ?_⟩,
    getAt?_eq_none_iff index, removeAt_of_getAt?_eq_none, fun p hp => ?_⟩,
    fun type => ⟨?_, removeType_of_eq_none, fun i hi => ?_⟩, ParameterStep.runAll_eq_plain ps⟩
  · exact toInt_length_add ps hlength (Int64.lt_iff_toInt_lt.mp hneg)
  · obtain ⟨before, behind, hlist, hindex⟩ := (getAt?_eq_some_iff index p).mp hp
    exact ⟨before, behind, hlist, hindex, removeAt_of_split hlist hindex⟩
  · simp [positionOfType?]
  · obtain ⟨before, p, behind, hlist, rfl, rfl, hbefore⟩ :=
      (positionOfType?_eq_some_iff type i).mp hi
    exact ⟨before, p, behind, hlist, rfl, rfl, hbefore, removeType_of_split hlist hi⟩

/-- The least index misses a list of two, the index -2 is that of its first parameter
and misses the list that is left, whose only parameter is found by type. -/
theorem steps_refine_plain_leastIndex :
    let device : Parameter := ⟨"device", "VkDevice", none⟩
    let count : Parameter := ⟨"pCount", "uint32_t*", none⟩
    let ps : ParameterList := ⟨[device, count]⟩
    ps.resolveWord? Int64.minValue = none ∧ ps.removeAt Int64.minValue = (none, ps) ∧
      ParameterStep.runAll ps [.removeAt (-2), .removeAt (-2), .removeType "uint32_t*"] =
        ([.parameter (some device), .parameter none, .placed (some (0, count))], empty) := by
  intro device count ps
  obtain ⟨hindex, _, hsteps⟩ := steps_refine_plain ps
  obtain ⟨hword, hnone, hremove, _⟩ := hindex Int64.minValue
  -- no list is so long that the least index means one of its parameters
  have hmiss : ps.getAt? Int64.minValue = none := hnone.mpr (.inl (by decide))
  refine ⟨?_, hremove hmiss, ?_⟩
  · rw [(hword (by decide)).1]
    decide
  · -- the steps on plain lists are short enough to be evaluated
    rw [hsteps]
    decide

end ParameterList

end VulkanGen
