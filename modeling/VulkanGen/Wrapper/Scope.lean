import VulkanGen.Wrapper.Code

/-!
# Names in the body of a definition

A name in the body of a definition means the local variable of that name, or else the
parameter, or else what is declared around the function.  The locals stand in the
outermost block of the function, so one that is called like a parameter declares it again.

* `localNames`  the local variables
* `meaning`     what a name means
* `Hygienic`    no name that a definition brings in is that of a parameter
-/

namespace VulkanGen.Wrapper

/-- The local variables of a definition. -/
def localNames (w : Wrapper) : List String :=
  match w.form with
  | .countQuery _ _ => ["fp", "count", "result"]
  | .forward | .recorderMethod => []

/-- All local variables that there can be. -/
theorem localNames_subset (w : Wrapper) : w.localNames ⊆ ["fp", "count", "result"] := by
  rw [localNames]
  split
  · exact List.Subset.refl _
  · exact List.nil_subset _
  · exact List.nil_subset _

/-- What a name can mean. -/
inductive Meaning where
  | localVariable | parameter | outer
  deriving DecidableEq, Repr

/-- What a name means in the body of a definition. -/
def meaning (w : Wrapper) (name : String) : Meaning :=
  if name ∈ w.localNames then .localVariable
  else if name ∈ w.parameters.names then .parameter
  else .outer

theorem meaning_eq_parameter_iff {w : Wrapper} {name : String} :
    w.meaning name = .parameter ↔ name ∉ w.localNames ∧ name ∈ w.parameters.names := by
  rw [meaning]
  split
  · simp [*]
  · split <;> simp [*]

theorem meaning_eq_outer_iff {w : Wrapper} {name : String} :
    w.meaning name = .outer ↔ name ∉ w.localNames ∧ name ∉ w.parameters.names := by
  rw [meaning]
  split
  · simp [*]
  · split <;> simp [*]

/-- No name that a definition brings in is that of a parameter. -/
def Hygienic (naming : Naming) (w : Wrapper) : Prop :=
  ∀ name ∈ w.introducedNames naming, name ∉ w.parameters.names

instance (naming : Naming) (w : Wrapper) : Decidable (Hygienic naming w) :=
  inferInstanceAs (Decidable (∀ name ∈ w.introducedNames naming, name ∉ w.parameters.names))

/-- A definition brings in its local variables, the recorder's field and the variable of a
bound handle. -/
theorem mem_introducedNames_iff {naming : Naming} {w : Wrapper} {name : String} :
    name ∈ w.introducedNames naming ↔
      name ∈ w.localNames ∨ w.isRecorderMethod = true ∧ name = naming.recorderField ∨
        ∃ b, w.binding = some b ∧ name = b.variableName naming := by
  have hbinding : name ∈ (w.binding.map (·.variableName naming)).toList ↔
      ∃ b, w.binding = some b ∧ name = b.variableName naming := by
    rw [Option.mem_toList, Option.map_eq_some_iff]
    simp only [eq_comm]
  rw [introducedNames, List.mem_append, hbinding, localNames, isRecorderMethod]
  cases w.form <;> simp

end VulkanGen.Wrapper
