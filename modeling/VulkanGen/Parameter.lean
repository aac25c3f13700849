import VulkanGen.Text.Search

/-!
# Parameters

A parameter is a name with a type as the header spells it, and the extent of a
fixed array where the declarator has one.  The order of a parameter list is the
argument order of every call that is generated from it.

Parameters are found by type (the first one counts) or by a 64-bit signed index,
which counts from the end where it is negative.  Indices are resolved in exact
arithmetic, so no index overflows.

* `toList_push`, `toList_removeAt`, `toList_removeType`  what each change does to the list
* `resolve?_eq_some_iff`, `resolve?_eq_none_iff`         when an index hits a parameter
-/

namespace VulkanGen

/-- The extent of a fixed array: a number of elements from 1 to 2^32 - 1. -/
structure Extent where
  size : Nat
  size_pos : 0 < size
  size_le : size ≤ 0xFFFFFFFF
  deriving DecidableEq

/-- The extent with this many elements, if the number is in range. -/
def Extent.ofNat? (n : Nat) : Option Extent :=
  if h : 0 < n ∧ n ≤ 0xFFFFFFFF then some ⟨n, h.1, h.2⟩ else none

@[simp] theorem Extent.ofNat?_size (e : Extent) : ofNat? e.size = some e :=
  dif_pos ⟨e.size_pos, e.size_le⟩

/-- One declared parameter. -/
structure Parameter where
  name : String
  type : String
  extent : Option Extent
  deriving DecidableEq

namespace Parameter

/-- Whether the type is a pointer. -/
def isPointer (p : Parameter) : Bool :=
  Text.endsWith "*" p.type

/-- A parameter as it is declared: `type name` or `type name[N]`. -/
def render (p : Parameter) : String :=
  match p.extent with
  | none => s!"{p.type} {p.name}"
  | some extent => s!"{p.type} {p.name}[{extent.size}]"

end Parameter

/-- The parameters of a function, in call order. -/
structure ParameterList where
  toList : List Parameter
  deriving DecidableEq

namespace ParameterList

/-- No parameters. -/
def empty : ParameterList := ⟨[]⟩

/-- The number of parameters. -/
def length (ps : ParameterList) : Nat :=
  ps.toList.length

/-- Whether there are no parameters. -/
def isEmpty (ps : ParameterList) : Bool :=
  ps.toList.isEmpty

/-- The parameter names, in order. -/
def names (ps : ParameterList) : List String :=
  ps.toList.map (·.name)

/-- The list with one more parameter at its end. -/
def push (ps : ParameterList) (p : Parameter) : ParameterList :=
  ⟨ps.toList ++ [p]⟩

/-- The position of the first parameter of exactly this type. -/
def positionOfType? (ps : ParameterList) (type : String) : Option Nat :=
  ps.toList.findIdx? (·.type == type)

/-- The first parameter of exactly this type. -/
def ofType? (ps : ParameterList) (type : String) : Option Parameter :=
  ps.toList.find? (·.type == type)

/-- Whether some parameter has exactly this type. -/
def hasType (ps : ParameterList) (type : String) : Bool :=
  (ps.positionOfType? type).isSome

/-- The position that an index means: the index itself, or its distance from the
end where it is negative. -/
def resolve? (ps : ParameterList) (index : Int64) : Option Nat :=
  let position := if index.toInt < 0 then ps.length + index.toInt else index.toInt
  if 0 ≤ position ∧ position < ps.length then some position.toNat else none

/-- The parameter at an index. -/
def getAt? (ps : ParameterList) (index : Int64) : Option Parameter :=
  (ps.resolve? index).bind (ps.toList[·]?)

/-- Takes the parameter at an index out of the list; with no parameter there the
list stays as it is. -/
def removeAt (ps : ParameterList) (index : Int64) : Option Parameter × ParameterList :=
  match ps.resolve? index with
  | none => (none, ps)
  | some i => (ps.toList[i]?, ⟨ps.toList.eraseIdx i⟩)

/-- Takes the first parameter of exactly this type out of the list, and tells its
position; with no such parameter the list stays as it is. -/
def removeType (ps : ParameterList) (type : String) :
    Option (Nat × Parameter) × ParameterList :=
  match ps.positionOfType? type with
  | none => (none, ps)
  | some i => (ps.toList[i]?.map (i, ·), ⟨ps.toList.eraseIdx i⟩)

/-- The parameters as a declaration lists them. -/
def render (ps : ParameterList) : String :=
  ", ".intercalate (ps.toList.map (·.render))

/-- The parameter names as a call lists them. -/
def renderNames (ps : ParameterList) : String :=
  ", ".intercalate ps.names

@[simp] theorem toList_push (ps : ParameterList) (p : Parameter) :
    (ps.push p).toList = ps.toList ++ [p] := rfl

/-- An index misses the list on either side of its range. -/
theorem resolve?_eq_none_iff (ps : ParameterList) (index : Int64) :
    ps.resolve? index = none ↔ index.toInt < -ps.length ∨ ps.length ≤ index.toInt := by
  simp only [resolve?]
  split <;> split <;> simp only [reduceCtorEq, true_iff, false_iff] <;> omega

/-- The position that an index hits. -/
theorem resolve?_eq_some_iff (ps : ParameterList) (index : Int64) (i : Nat) :
    ps.resolve? index = some i ↔
      i < ps.length ∧ (index.toInt = i ∨ index.toInt = (i : Int) - ps.length) := by
  simp only [resolve?]
  split <;> split <;> simp only [Option.some.injEq, reduceCtorEq, false_iff] <;> omega

theorem lt_length_of_resolve? {ps : ParameterList} {index : Int64} {i : Nat}
    (h : ps.resolve? index = some i) : i < ps.toList.length :=
  ((ps.resolve?_eq_some_iff index i).1 h).1

/-- Removing at an index erases the position that the index hits. -/
theorem toList_removeAt (ps : ParameterList) (index : Int64) :
    (ps.removeAt index).2.toList =
      match ps.resolve? index with
      | none => ps.toList
      | some i => ps.toList.eraseIdx i := by
  simp only [removeAt]
  split <;> rfl

/-- Removing by type erases the first position of that type. -/
theorem toList_removeType (ps : ParameterList) (type : String) :
    (ps.removeType type).2.toList =
      match ps.positionOfType? type with
      | none => ps.toList
      | some i => ps.toList.eraseIdx i := by
  simp only [removeType]
  split <;> rfl

/-- What is removed at an index is what stands there. -/
theorem removeAt_fst (ps : ParameterList) (index : Int64) :
    (ps.removeAt index).1 = ps.getAt? index := by
  simp only [removeAt, getAt?]
  split <;> simp [*]

end ParameterList

end VulkanGen
