import VulkanGen.Parameter

/-!
# Steps on a parameter list

A step changes a parameter list or looks something up in it.  The same steps make
sense on a plain list, where a negative index is read from the other end.

* `ParameterList.resolveWord?`  the position that an index means, found in 64-bit words
* `ParameterStep.run`           a step on a parameter list
* `ParameterStep.runPlain`      the same step on a plain list
-/

namespace VulkanGen

/-- The position that an index means, with the length, the sum and the comparisons
all in 64-bit words. -/
def ParameterList.resolveWord? (ps : ParameterList) (index : Int64) : Option Nat :=
  let length := Int64.ofNat ps.length
  let position := if index < 0 then length + index else index
  if 0 ≤ position ∧ position < length then some position.toNatClampNeg else none

/-- What can be done with a parameter list. -/
inductive ParameterStep where
  | push (p : Parameter)
  | getAt (index : Int64)
  | removeAt (index : Int64)
  | ofType (type : String)
  | positionOfType (type : String)
  | removeType (type : String)
  deriving DecidableEq

/-- What a step tells. -/
inductive StepResult where
  | done
  | parameter (p : Option Parameter)
  | position (i : Option Nat)
  | placed (p : Option (Nat × Parameter))
  deriving DecidableEq

namespace ParameterStep

/-- A step on a parameter list. -/
def run (ps : ParameterList) : ParameterStep → StepResult × ParameterList
  | push p => (.done, ps.push p)
  | getAt index => (.parameter (ps.getAt? index), ps)
  | removeAt index => let (p, rest) := ps.removeAt index; (.parameter p, rest)
  | ofType type => (.parameter (ps.ofType? type), ps)
  | positionOfType type => (.position (ps.positionOfType? type), ps)
  | removeType type => let (p, rest) := ps.removeType type; (.placed p, rest)

/-- The element at an index of a plain list: from the front, or from the back with
the last element at -1. -/
def plainGet? (xs : List Parameter) (index : Int) : Option Parameter :=
  if 0 ≤ index then xs[index.toNat]? else xs.reverse[(-index).toNat - 1]?

/-- A plain list without the element at an index. -/
def plainErase (xs : List Parameter) (index : Int) : List Parameter :=
  if 0 ≤ index then xs.eraseIdx index.toNat
  else (xs.reverse.eraseIdx ((-index).toNat - 1)).reverse

/-- The first element of a type in a plain list, and its position. -/
def plainFind? (xs : List Parameter) (type : String) : Option (Nat × Parameter) :=
  (xs.zipIdx.find? fun (p, _) => p.type == type).map fun (p, i) => (i, p)

/-- A step on a plain list. -/
def runPlain (xs : List Parameter) : ParameterStep → StepResult × List Parameter
  | push p => (.done, xs ++ [p])
  | getAt index => (.parameter (plainGet? xs index.toInt), xs)
  | removeAt index => (.parameter (plainGet? xs index.toInt), plainErase xs index.toInt)
  | ofType type => (.parameter ((plainFind? xs type).map (·.2)), xs)
  | positionOfType type => (.position ((plainFind? xs type).map (·.1)), xs)
  | removeType type => (.placed (plainFind? xs type), xs.eraseP (·.type == type))

/-- The results of steps on a parameter list, and the list behind them. -/
def runAll (ps : ParameterList) : List ParameterStep → List StepResult × ParameterList
  | [] => ([], ps)
  | step :: steps =>
    let (result, next) := step.run ps
    let (results, last) := runAll next steps
    (result :: results, last)

/-- The results of steps on a plain list, and the list behind them. -/
def runAllPlain (xs : List Parameter) : List ParameterStep → List StepResult × List Parameter
  | [] => ([], xs)
  | step :: steps =>
    let (result, next) := step.runPlain xs
    let (results, last) := runAllPlain next steps
    (result :: results, last)

end ParameterStep

end VulkanGen
