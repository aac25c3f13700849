import VulkanGen.Proofs.FunctionTable.Layout

/-!
# More headers, a longer table

Headers behind others add functions to the table and take none away.  What a sighting
does to the extensions is small: it changes nothing, or it puts one function at the end
of an extension that is there already, or it puts a new extension behind all others.  So
the extensions grow, and with them the table: groups stay where they are and under
their names, their functions stay in front of those that are new, and new groups come
last.

## Key results

- `Grows.addTo`: adding to an extension makes the extensions grow
- `Placement.grows_place`, `Placement.grows_foldl_place`: so does every sighting
- `grows_attributed`: the extensions of more headers have grown
- `build_append`: the table of more headers
-/

namespace VulkanGen.FunctionTable

/-- Groups grow: each stays in its place, under its name and with its functions in
front, and new groups come behind. -/
inductive Grows : List (String × List String) → List (String × List String) → Prop
  | behind (later : List (String × List String)) : Grows [] later
  | keep {name : String} {fs gs : List String} {old new : List (String × List String)}
      (hfs : fs <+: gs) (hrest : Grows old new) : Grows ((name, fs) :: old) ((name, gs) :: new)

namespace Grows

/-- Groups that do not change have grown by nothing. -/
theorem refl (exts : List (String × List String)) : Grows exts exts := by
  induction exts with
  | nil => exact .behind []
  | cons e exts ih => exact .keep List.prefix_rfl ih

/-- Groups may grow twice. -/
theorem trans {as bs cs : List (String × List String)} (h : Grows as bs) (h' : Grows bs cs) :
    Grows as cs := by
  induction h generalizing cs with
  | behind => exact .behind cs
  | keep hfs _ ih =>
    cases h' with
    | keep hgs hrest => exact .keep (hfs.trans hgs) (ih hrest)

/-- Behind groups that stay, others may grow. -/
theorem append_left (kept : List (String × List String)) {old new : List (String × List String)}
    (h : Grows old new) : Grows (kept ++ old) (kept ++ new) := by
  induction kept with
  | nil => exact h
  | cons e kept ih => exact .keep List.prefix_rfl ih

/-- Adding to an extension makes the extensions grow. -/
theorem addTo (extension : String) (functions : List String)
    (exts : List (String × List String)) :
    Grows exts (FunctionTable.addTo extension functions exts) := by
  induction exts with
  | nil => exact .behind _
  | cons e exts ih =>
    rw [FunctionTable.addTo]
    split
    · exact .keep (List.prefix_append _ _) (refl exts)
    · exact .keep List.prefix_rfl ih

/-- A group that has grown is where it was. -/
private theorem getElem? {old new : List (String × List String)} (h : Grows old new) {i : Nat}
    {name : String} {fs : List String} (hi : old[i]? = some (name, fs)) :
    ∃ gs, new[i]? = some (name, gs) ∧ fs <+: gs := by
  induction h generalizing i with
  | behind => exact nomatch hi
  | @keep name' fs' gs' _ _ hfs _ ih =>
    -- the first group may have more functions, and the others are searched in the rest
    cases i with
    | zero =>
      rw [List.getElem?_cons_zero, Option.some.injEq, Prod.mk.injEq] at hi
      obtain ⟨hname, rfl⟩ := hi
      exact ⟨gs', by rw [List.getElem?_cons_zero, hname], hfs⟩
    | succ i =>
      rw [List.getElem?_cons_succ] at hi ⊢
      exact ih hi

/-- No function is lost, and none is moved in front of another. -/
private theorem flatMap_sublist {old new : List (String × List String)} (h : Grows old new) :
    (old.flatMap (·.2)).Sublist (new.flatMap (·.2)) := by
  induction h with
  | behind later => exact List.nil_sublist _
  | keep hfs _ ih =>
    rw [List.flatMap_cons, List.flatMap_cons]
    exact hfs.sublist.append ih

end Grows

/-! ## Extensions -/

/-- One sighting makes the extensions grow. -/
theorem Placement.grows_place (s : Placement) (sighting : String × String) :
    Grows s.extensions (s.place sighting).extensions := by
  rw [place]
  split
  · exact .refl s.extensions
  · exact .addTo sighting.1 [sighting.2] s.extensions

/-- Sightings one after the other make the extensions grow. -/
theorem Placement.grows_foldl_place (s : Placement) (later : List (String × String)) :
    Grows s.extensions (later.foldl place s).extensions := by
  induction later generalizing s with
  | nil => exact .refl s.extensions
  | cons sighting later ih =>
    rw [List.foldl_cons]
    exact (s.grows_place sighting).trans (ih (s.place sighting))

/-- The extensions of headers grow when there are more headers. -/
theorem grows_attributed (core : List String) (hs ks : List ParsedHeader) :
    Grows (attributed core hs) (attributed core (hs ++ ks)) := by
  -- the later headers go on from the placement that the first ones lead to
  rw [← extensions_eq_attributed, ← extensions_eq_attributed, extensions, extensions,
    List.foldl_append, Placement.place_sightings _ ks]
  exact Placement.grows_foldl_place _ (sightings ks)

/-! ## Tables -/

/-- The three groups that the core header alone decides. -/
def leading (naming : Naming) (coreHeader : ParsedHeader) : List (String × List String) :=
  (layout naming coreHeader []).take 3

/-- A layout is the three leading groups and the extensions. -/
private theorem layout_eq_append (naming : Naming) (coreHeader : ParsedHeader)
    (headers : List ParsedHeader) :
    layout naming coreHeader headers =
      leading naming coreHeader ++ attributed (coreNames coreHeader) headers := rfl

/-- The layout of headers grows when there are more headers. -/
private theorem grows_layout (naming : Naming) (coreHeader : ParsedHeader)
    (hs ks : List ParsedHeader) :
    Grows (layout naming coreHeader hs) (layout naming coreHeader (hs ++ ks)) := by
  rw [layout_eq_append, layout_eq_append]
  exact (grows_attributed _ hs ks).append_left _

/-- Groups that are pushed behind those of a table leave them as they are. -/
private theorem groups_prefix_foldl_push (t : FunctionTable) (later : List (String × List String)) :
    t.groups <+: (later.foldl (fun t (name, functions) => t.push name functions) t).groups := by
  induction later generalizing t with
  | nil => exact List.prefix_rfl
  | cons e later ih =>
    rw [List.foldl_cons]
    exact (List.prefix_append t.groups _).trans (ih (t.push e.1 e.2))

/-- The first three groups of a table depend on the core header alone. -/
private theorem take_groups_layout (naming : Naming) (coreHeader : ParsedHeader)
    (headers : List ParsedHeader) :
    (ofContents (layout naming coreHeader headers)).groups.take 3 =
      (ofContents (leading naming coreHeader)).groups := by
  have hprefix := groups_prefix_foldl_push (ofContents (leading naming coreHeader))
    (attributed (coreNames coreHeader) headers)
  -- the extensions are pushed behind these three
  rw [layout_eq_append, ofContents, List.foldl_append]
  exact (List.prefix_iff_eq_take.mp hprefix).symm

/-- A group of a table shows what it was made of. -/
private theorem getElem?_contents {t : FunctionTable} {i : Nat} {g : Group}
    (h : t.groups[i]? = some g) :
    t.contents[i]? = some (g.name, t.groupNames g) := by
  rw [contents, List.getElem?_map, h, Option.map_some]

/-- What a table shows at a position is a group of it. -/
private theorem exists_of_getElem?_contents {t : FunctionTable} {i : Nat} {name : String}
    {fs : List String} (h : t.contents[i]? = some (name, fs)) :
    ∃ g, t.groups[i]? = some g ∧ g.name = name ∧ t.groupNames g = fs := by
  rw [contents, List.getElem?_map] at h
  obtain ⟨g, hg, heq⟩ := Option.map_eq_some_iff.mp h
  obtain ⟨hname, hfs⟩ := Prod.mk.inj heq
  exact ⟨g, hg, hname, hfs⟩

/-- How a table has grown: the three leading groups are the same, every group is where
it was, under its name and with its functions in front, and the names are in the order
in which they were. -/
structure GrownFrom (old new : FunctionTable) : Prop where
  leading_eq : new.groups.take 3 = old.groups.take 3
  group_kept : ∀ (i : Nat) (g : Group), old.groups[i]? = some g →
    ∃ g', new.groups[i]? = some g' ∧ g'.name = g.name ∧ old.groupNames g <+: new.groupNames g'
  names_sublist : old.names.Sublist new.names

/-- Tables that are made of groups grow with them. -/
private theorem GrownFrom.of_grows {old new : FunctionTable}
    {groups more : List (String × List String)}
    (hold : old.MadeOf groups) (hnew : new.MadeOf more) (h : Grows groups more)
    (hleading : new.groups.take 3 = old.groups.take 3) : GrownFrom old new where
  leading_eq := hleading
  group_kept := by
    intro i g hg
    -- groups are compared by what they show, since their starts have moved
    have hshown := getElem?_contents hg
    rw [hold.contents_eq] at hshown
    obtain ⟨gs, hgs, hfs⟩ := h.getElem? hshown
    rw [← hnew.contents_eq] at hgs
    obtain ⟨g', hg', hname, hnames⟩ := exists_of_getElem?_contents hgs
    exact ⟨g', hg', hname, hnames ▸ hfs⟩
  names_sublist := by
    rw [hold.names_eq, hnew.names_eq]
    exact h.flatMap_sublist

/-- More headers fail as the first ones do, and make a table that has grown. -/
theorem build_append (naming : Naming) {hs : List ParsedHeader} (hne : hs ≠ [])
    (ks : List ParsedHeader) :
    (∃ e, build naming hs = .error e ∧ build naming (hs ++ ks) = .error e) ∨
    ∃ old new, build naming hs = .ok old ∧ build naming (hs ++ ks) = .ok new ∧
      GrownFrom old new ∧
      (old.groups.take 3).map (·.name) = [naming.bootstrapFunction, globalGroup, coreGroup] := by
  obtain ⟨core, later, rfl⟩ := List.exists_cons_of_ne_nil hne
  rw [List.cons_append]
  -- whether there is a table is decided by the first header alone
  by_cases hcore : InCore core naming.bootstrapFunction
  · right
    refine ⟨_, _, build_of_inCore hcore later, build_of_inCore hcore (later ++ ks), ?_, ?_⟩
    · refine .of_grows (madeOf_ofContents _) (madeOf_ofContents _) ?_ ?_
      · -- more headers reach the extensions alone, so the leading groups are equal
        exact grows_layout naming core (core :: later) ks
      · rw [take_groups_layout, take_groups_layout]
    · rw [take_groups_layout]
      rfl
  · left
    exact ⟨_, build_of_not_inCore hcore later, build_of_not_inCore hcore (later ++ ks)⟩

end VulkanGen.FunctionTable
