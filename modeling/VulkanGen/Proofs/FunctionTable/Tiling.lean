import Mathlib.Data.List.Chain
import Mathlib.Logic.ExistsUnique
import VulkanGen.FunctionTable

/-!
# Groups side by side

A table grows by whole groups: `push` puts the names of a group at the end of the list
of names and the group behind the others, where those names start.  So the groups of a
table that is made in this way lie side by side, from the first name to the last, and
each of them shows the names that it was made of.

## Key results

- `Tiles.push`: a table that is tiled by its groups stays so
- `Tiles.existsUnique_group`: every index lies in one group
- `Tiles.flatMap_groupNames`: the groups, one after the other, show all names
- `contents_ofContents`, `names_ofContents`: a table made of groups shows these groups
-/

namespace VulkanGen

/-- A group does not end before it starts. -/
private theorem Group.start_le_stop (g : Group) : g.start ≤ g.stop :=
  Nat.le_add_right g.start g.count

namespace FunctionTable

/-- Groups that lie side by side between two indices. -/
def Tiles (start : Nat) : List Group → Nat → Prop
  | [], stop => start = stop
  | g :: rest, stop => g.start = start ∧ Tiles g.stop rest stop

namespace Tiles

variable {start stop : Nat} {gs : List Group}

/-- One more group where the others end. -/
theorem concat (h : Tiles start gs stop) {g : Group} (hg : g.start = stop) :
    Tiles start (gs ++ [g]) g.stop := by
  induction gs generalizing start with
  | nil =>
    have hstart : start = stop := h
    exact ⟨hg.trans hstart.symm, rfl⟩
  | cons first rest ih => exact ⟨h.1, ih h.2⟩

/-- Neither do groups that lie side by side. -/
private theorem start_le_stop (h : Tiles start gs stop) : start ≤ stop := by
  induction gs generalizing start with
  | nil => exact Nat.le_of_eq h
  | cons g rest ih =>
    have hg := g.start_le_stop
    have hrest := ih h.2
    have hstart := h.1
    omega

/-- Each of them lies between the two indices. -/
theorem bounds_of_mem (h : Tiles start gs stop) {g : Group} (hg : g ∈ gs) :
    start ≤ g.start ∧ g.stop ≤ stop := by
  induction gs generalizing start with
  | nil => exact absurd hg List.not_mem_nil
  | cons first rest ih =>
    have hfirst := first.start_le_stop
    have hstop := start_le_stop h.2
    have hstart := h.1
    -- the first group starts at the first index, and the others behind its end
    rcases List.mem_cons.mp hg with rfl | hg
    · omega
    · have hlater := ih h.2 hg
      omega

/-- Each group ends before all later ones start. -/
theorem pairwise (h : Tiles start gs stop) : gs.Pairwise fun g later => g.stop ≤ later.start := by
  induction gs generalizing start with
  | nil => exact .nil
  | cons g rest ih => exact .cons (fun later hlater => (bounds_of_mem h.2 hlater).1) (ih h.2)

/-- Each group starts where the one before it ends. -/
theorem isChain (h : Tiles start gs stop) : gs.IsChain fun g next => next.start = g.stop := by
  induction gs generalizing start with
  | nil => exact .nil
  | cons g rest ih =>
    cases rest with
    | nil => exact .singleton g
    | cons next later => exact .cons_cons h.2.1 (ih h.2)

/-- The last group ends where all of them do. -/
theorem stop_of_getLast? (h : Tiles start gs stop) {g : Group} (hg : gs.getLast? = some g) :
    g.stop = stop := by
  induction gs generalizing start with
  | nil => exact nomatch hg
  | cons first rest ih =>
    -- the last of two groups or more is the last behind the first
    cases rest with
    | nil =>
      rw [List.getLast?_singleton, Option.some.injEq] at hg
      rw [← hg]
      exact h.2
    | cons next later =>
      rw [List.getLast?_cons_cons] at hg
      exact ih h.2 hg

/-- Every index lies in exactly one group. -/
theorem existsUnique_group (h : Tiles start gs stop) {i : Nat} (hstart : start ≤ i)
    (hstop : i < stop) :
    ∃! k : Nat, ∃ g : Group, gs[k]? = some g ∧ g.start ≤ i ∧ i < g.stop := by
  induction gs generalizing start with
  | nil =>
    have heq : start = stop := h
    omega
  | cons first rest ih =>
    have hfirst := h.1
    by_cases hi : i < first.stop
    · -- the first group has the index, and all others start behind it
      refine ⟨0, ⟨first, rfl, by omega, hi⟩, ?_⟩
      rintro k ⟨g, hk, hg, _⟩
      cases k with
      | zero => rfl
      | succ k =>
        rw [List.getElem?_cons_succ] at hk
        have hbounds := bounds_of_mem h.2 (List.mem_of_getElem? hk)
        omega
    · -- otherwise the group is among the others, one position further on
      obtain ⟨k, ⟨g, hk, hg⟩, hunique⟩ := ih h.2 (by omega)
      refine ⟨k + 1, ⟨g, hk, hg⟩, ?_⟩
      rintro j ⟨g', hj, hg'⟩
      cases j with
      | zero =>
        -- the first group ends in front of the index
        rw [List.getElem?_cons_zero, Option.some.injEq] at hj
        subst hj
        omega
      | succ j =>
        rw [List.getElem?_cons_succ] at hj
        rw [hunique j ⟨g', hj, hg'⟩]

/-- The groups show the names between the two indices, one after the other. -/
theorem flatMap_groupNames (h : Tiles start gs stop) (t : FunctionTable) :
    gs.flatMap t.groupNames = (t.names.drop start).take (stop - start) := by
  induction gs generalizing start with
  | nil =>
    have heq : start = stop := h
    rw [heq, Nat.sub_self, List.take_zero, List.flatMap_nil]
  | cons g rest ih =>
    have hstart := h.1
    have hle := start_le_stop h.2
    -- the names up to `stop` are those of the first group and those behind it
    have hsplit : stop - start = g.count + (stop - g.stop) := by
      rw [Group.stop] at hle ⊢
      omega
    rw [List.flatMap_cons, ih h.2, groupNames, hsplit, List.take_add, List.drop_drop, ← hstart]
    rfl

/-- A table that is tiled by its groups stays so with one more. -/
theorem push {t : FunctionTable} (h : Tiles 0 t.groups t.length) (name : String)
    (functions : List String) :
    Tiles 0 (t.push name functions).groups (t.push name functions).length := by
  have hstop : (t.push name functions).length = t.length + functions.length := by
    simp [length]
  rw [groups_push, hstop]
  exact h.concat (g := ⟨name, t.length, functions.length⟩) rfl

end Tiles

/-! ## Tables made of groups -/

/-- The groups of a table by name, each with the names that it shows. -/
def contents (t : FunctionTable) : List (String × List String) :=
  t.groups.map fun g => (g.name, t.groupNames g)

/-- The table that is made of groups. -/
def ofContents (groups : List (String × List String)) : FunctionTable :=
  groups.foldl (fun t (name, functions) => t.push name functions) empty

/-- A group that ends inside the table shows as many names as it counts. -/
theorem length_groupNames {t : FunctionTable} {g : Group} (hg : g.stop ≤ t.length) :
    (t.groupNames g).length = g.count := by
  rw [Group.stop, length] at hg
  rw [groupNames, List.length_take, List.length_drop]
  omega

/-- A group shows the same names when more are put behind them. -/
private theorem groupNames_push {t : FunctionTable} {g : Group} (hg : g.stop ≤ t.length)
    (name : String)
    (functions : List String) : (t.push name functions).groupNames g = t.groupNames g := by
  have hle : g.count ≤ (t.names.drop g.start).length := by
    rw [List.length_drop]
    rw [Group.stop, length] at hg
    omega
  rw [groupNames, names_push, List.drop_append_of_le_length, List.take_append_of_le_length hle]
  · rfl
  · rw [Group.stop, length] at hg
    omega

/-- One more group comes behind the others, which show what they did. -/
private theorem contents_push {t : FunctionTable} (h : Tiles 0 t.groups t.length) (name : String)
    (functions : List String) :
    (t.push name functions).contents = t.contents ++ [(name, functions)] := by
  rw [contents, groups_push, List.map_append, List.map_singleton, contents]
  congr 1
  · refine List.map_congr_left fun g hg => ?_
    rw [groupNames_push (h.bounds_of_mem hg).2]
  · simp [groupNames]

/-- What is known of a table that is made of groups. -/
structure MadeOf (t : FunctionTable) (groups : List (String × List String)) : Prop where
  tiles : Tiles 0 t.groups t.length
  contents_eq : t.contents = groups
  names_eq : t.names = groups.flatMap (·.2)

/-- A table made of groups is made of one more when that is pushed. -/
theorem MadeOf.push {t : FunctionTable} {groups : List (String × List String)}
    (h : t.MadeOf groups) (name : String) (functions : List String) :
    (t.push name functions).MadeOf (groups ++ [(name, functions)]) where
  tiles := h.tiles.push name functions
  contents_eq := by rw [contents_push h.tiles, h.contents_eq]
  names_eq := by rw [names_push, h.names_eq, List.flatMap_append, List.flatMap_singleton]

/-- The same for several. -/
private theorem MadeOf.foldl_push {t : FunctionTable} {groups : List (String × List String)}
    (h : t.MadeOf groups) (later : List (String × List String)) :
    (later.foldl (fun t (name, functions) => t.push name functions) t).MadeOf
      (groups ++ later) := by
  induction later generalizing t groups with
  | nil => rwa [List.append_nil]
  | cons e later ih =>
    rw [List.foldl_cons, List.append_cons]
    exact ih (h.push e.1 e.2)

/-- A table made of groups is tiled by them, and shows them as they are. -/
theorem madeOf_ofContents (groups : List (String × List String)) :
    (ofContents groups).MadeOf groups := by
  have hempty : empty.MadeOf [] := ⟨rfl, rfl, rfl⟩
  exact hempty.foldl_push groups

end FunctionTable

end VulkanGen
