import VulkanGen.FunctionTable.Lookup
import VulkanGen.Proofs.Artifact.TableRoundTrip
import VulkanGen.Proofs.FunctionTable.Growth
import VulkanGen.Proofs.List.Basic

/-!
# Which groups a lookup reaches

The groups of a table are listed with the three fixed ones first and the extensions
behind them, and no two extensions share a group.  So a lookup by name misses a group
exactly if a fixed group in front of it has the same name: the global or the core
functions if the bootstrap function is called like them, and an extension if it is
called like one of the three.

## Key results

- `nodup_groups_of_madeOf`: no group is in a table twice
- `group?_iff_of_getElem?`: when a lookup reaches the group at an index
- `lookup_reaches_iff`: when a lookup reaches all groups
-/

namespace VulkanGen.FunctionTable

/-! ## Names of groups -/

/-- No two extensions of a table have the same name. -/
private theorem nodup_names_attributed (core : List String) (headers : List ParsedHeader) :
    ((attributed core headers).map (·.1)).Nodup := by
  rw [attributed_eq, byExtension, List.map_map]
  exact (List.map_id _).symm ▸ List.nodup_eraseDups _

/-- An extension of a table is one that a function is met under first. -/
private theorem mem_names_attributed {core : List String} {headers : List ParsedHeader}
    {extension : String} :
    extension ∈ (attributed core headers).map (·.1) ↔
      ∃ s ∈ firstSightings core headers, s.1 = extension := by
  rw [attributed_eq, byExtension, List.map_map]
  simp [List.mem_eraseDups]

variable {naming : Naming} {coreHeader : ParsedHeader} {headers : List ParsedHeader}
  {t : FunctionTable}

/-- The three fixed groups come first, and the extensions behind them. -/
private theorem map_name_groups (h : t.MadeOf (layout naming coreHeader headers)) :
    t.groups.map Group.name =
      fixedGroups naming ++ (attributed (coreNames coreHeader) headers).map (·.1) := by
  have hnames := congrArg (List.map Prod.fst) h.contents_eq
  rw [contents, List.map_map] at hnames
  exact hnames

/-- Groups are named apart exactly if no two have the same name. -/
private theorem nodup_names_iff (h : t.MadeOf (layout naming coreHeader headers)) :
    (t.groups.map Group.name).Nodup ↔ GroupsApart naming coreHeader headers := by
  rw [map_name_groups h, List.nodup_append']
  constructor
  · -- no extension is called like another one, so only the fixed names can clash
    rintro ⟨hfixed, _, hdisjoint⟩
    refine ⟨(List.nodup_cons.mp hfixed).1, fun s hs hname => ?_⟩
    exact hdisjoint hname (mem_names_attributed.mpr ⟨s, hs, rfl⟩)
  · rintro ⟨hbootstrap, hextensions⟩
    refine ⟨List.nodup_cons.mpr ⟨hbootstrap, by decide⟩, nodup_names_attributed _ _, ?_⟩
    intro name hname hextension
    obtain ⟨s, hs, rfl⟩ := mem_names_attributed.mp hextension
    exact hextensions s hs hname

/-- Only the groups of the global and of the core functions can be empty. -/
private theorem index_of_count_eq_zero (h : t.MadeOf (layout naming coreHeader headers)) {i : Nat}
    (hi : i < t.groups.length) (hempty : t.groups[i].count = 0) : i = 1 ∨ i = 2 := by
  -- extensions are not empty, and the bootstrap group counts one
  have hi3 : i < 3 := by
    by_contra hge
    have hmem : t.groups[i] ∈ t.groups.drop 3 :=
      List.mem_drop_iff_getElem.mpr ⟨i - 3, by omega, by simp [show 3 + (i - 3) = i by omega]⟩
    have hpos := count_pos_of_madeOf h _ hmem
    omega
  have hi0 : i ≠ 0 := by
    rintro rfl
    have hhead := head?_groups_of_madeOf h
    rw [List.head?_eq_getElem?, List.getElem?_eq_getElem hi, Option.some.injEq] at hhead
    rw [hhead] at hempty
    exact absurd hempty Nat.one_ne_zero
  omega

/-- No group is in a table twice, not even an empty one: the first of the two would end
where it starts, and of the groups that can be empty the two differ in name. -/
theorem nodup_groups_of_madeOf (h : t.MadeOf (layout naming coreHeader headers)) :
    t.groups.Nodup := by
  have hnames := map_name_groups h
  rw [List.Nodup, List.pairwise_iff_getElem]
  intro i j hi hj hij heq
  have hstop := List.pairwise_iff_getElem.mp h.tiles.pairwise i j hi hj hij
  -- a group that stands in two places ends where it begins
  have hempty : t.groups[i].count = 0 := by
    rw [← heq, Group.stop] at hstop
    omega
  have hindex := index_of_count_eq_zero h hi hempty
  have hother := index_of_count_eq_zero h hj (heq ▸ hempty)
  -- two equal groups are both empty, so they are the global and the core group
  obtain ⟨rfl, rfl⟩ : i = 1 ∧ j = 2 := by omega
  -- but these two have different names
  have hglobal : (t.groups.map Group.name)[1]? = some globalGroup := by rw [hnames]; rfl
  have hcore : (t.groups.map Group.name)[2]? = some coreGroup := by rw [hnames]; rfl
  rw [List.getElem?_map, List.getElem?_eq_getElem hi, heq, ← List.getElem?_eq_getElem hj,
    ← List.getElem?_map, hcore] at hglobal
  exact absurd hglobal (by decide)

/-! ## Lookups -/

/-- A lookup reaches the group at an index if none of the fixed groups in front of it has
its name. -/
theorem group?_iff_of_getElem? (h : t.MadeOf (layout naming coreHeader headers)) {i : Nat}
    {g : Group} (hg : t.groups[i]? = some g) :
    t.group? g.name = some g ↔ g.name ∉ (fixedGroups naming).take i := by
  rw [group?, List.find?_key_iff Group.name (nodup_groups_of_madeOf h) hg, map_name_groups h,
    List.take_append, List.mem_append, not_or, and_iff_left_iff_imp]
  intro _ hmem
  obtain ⟨k, hk, hname⟩ := List.mem_take_iff_getElem.mp hmem
  -- the group is an extension itself, and no other extension has its name
  have hlength : (fixedGroups naming).length = 3 := rfl
  have hself : (t.groups.map Group.name)[i]? = some g.name := by rw [List.getElem?_map, hg]; rfl
  rw [map_name_groups h, List.getElem?_append_right (by omega)] at hself
  obtain ⟨hlt, hself⟩ := List.getElem?_eq_some_iff.mp hself
  have hsame := ((nodup_names_attributed _ _).getElem_inj_iff).mp (hname.trans hself.symm)
  omega

/-- What the generated lookup tells is where the first group of the name lies. -/
private theorem loadInfo_eq (gs : List Group) (name : String) :
    loadInfo gs name =
      ((gs.find? (·.name == name)).map fun g => (g.start, g.count)).getD (0, 0) := by
  induction gs with
  | nil => rfl
  | cons g gs ih =>
    rw [loadInfo, List.find?_cons, BEq.comm]
    cases g.name == name with
    | true => rfl
    | false => exact ih

/-- It tells where a group lies exactly if the first group of its name is the group. -/
private theorem loadInfo_eq_iff {gs : List Group} {g : Group} (hg : g ∈ gs) :
    loadInfo gs g.name = (g.start, g.count) ↔ gs.find? (·.name == g.name) = some g := by
  rw [loadInfo_eq]
  cases hfind : gs.find? (·.name == g.name) with
  | none => exact absurd (beq_self_eq_true g.name) (List.find?_eq_none.mp hfind g hg)
  | some first =>
    have hfound := List.find?_some hfind
    have hname : first.name = g.name := beq_iff_eq.mp hfound
    rw [Option.map_some, Option.getD_some, Prod.mk.injEq, Option.some.injEq]
    constructor
    · -- a group is its name, its start and its count
      rintro ⟨hstart, hcount⟩
      cases first
      cases g
      cases hname
      cases hstart
      cases hcount
      rfl
    · rintro rfl
      exact ⟨rfl, rfl⟩

/-! ## Reaching all groups -/

/-- A lookup by name reaches every group exactly if the groups are named apart, and so does
the lookup of the generated source.  In every case it reaches the groups, and only those,
that have no fixed group of the same name in front of them: the bootstrap group always,
the global and the core functions unless the bootstrap function is called like them, and
an extension unless it is called like one of these three. -/
theorem lookup_reaches_iff {naming : Naming} {coreHeader : ParsedHeader}
    {later : List ParsedHeader} {t : FunctionTable}
    (h : build naming (coreHeader :: later) = .ok t) :
    ((t.groups.map Group.name).Nodup ↔ GroupsApart naming coreHeader (coreHeader :: later)) ∧
    ((∀ g ∈ t.groups, t.group? g.name = some g) ↔
      GroupsApart naming coreHeader (coreHeader :: later)) ∧
    ((∀ g ∈ t.groups, loadInfo t.groups g.name = (g.start, g.count)) ↔
      GroupsApart naming coreHeader (coreHeader :: later)) ∧
    (∀ (i : Nat) (g : Group), t.groups[i]? = some g →
      (t.group? g.name = some g ↔ g.name ∉ (fixedGroups naming).take i) ∧
      (loadInfo t.groups g.name = (g.start, g.count) ↔
        g.name ∉ (fixedGroups naming).take i)) ∧
    ∀ headers : List Header, coreHeader :: later = headers.map Header.parse →
      ∀ (config : Config) (name : String),
        Artifact.loadInfo? config.naming (Artifact.tableSource config t) name =
          some (loadInfo t.groups name) := by
  have hmade := madeOf_of_build h
  have hnames := nodup_names_iff hmade
  -- a lookup gives the first group of a name, so it reaches all if names are not repeated
  have hall : (∀ g ∈ t.groups, t.group? g.name = some g) ↔ _ :=
    (List.forall_find?_key_iff Group.name (nodup_groups_of_madeOf hmade)).trans hnames
  refine ⟨hnames, hall, ?_, fun i g hg => ?_, fun headers hheaders config name => ?_⟩
  · rw [← hall]
    exact forall₂_congr fun g hg => loadInfo_eq_iff hg
  · have hindex := group?_iff_of_getElem? hmade hg
    exact ⟨hindex, (loadInfo_eq_iff (List.mem_of_getElem? hg)).trans hindex⟩
  · rw [Artifact.loadInfo?, Artifact.readTableSource_of_build (hheaders ▸ h) config]
    rfl

/-- Three extensions over two headers, one of them in two blocks, are all reached. -/
theorem lookup_reaches_overlapping :
    ∃ t, build { globalFunctions := [] } overlapping = .ok t ∧
      (∀ g ∈ t.groups, t.group? g.name = some g ∧
        loadInfo t.groups g.name = (g.start, g.count)) ∧
      loadInfo t.groups "VK_KHR_swapchain" = (6, 1) := by
  have heval : (build { globalFunctions := [] } overlapping).toOption.map
      (fun t => loadInfo t.groups "VK_KHR_swapchain") = some (6, 1) := by
    decide +kernel
  cases ht : build { globalFunctions := [] } overlapping with
  | error e =>
    rw [ht] at heval
    exact nomatch heval
  | ok t =>
    rw [ht] at heval
    obtain ⟨_, hgroup, hload, _⟩ := lookup_reaches_iff ht
    -- the names of the groups differ, and that is the condition for both lookups
    have hreached := hgroup.mpr ⟨by decide, by decide +kernel⟩
    have hloaded := hload.mpr (hgroup.mp hreached)
    exact ⟨t, rfl, fun g hg => ⟨hreached g hg, hloaded g hg⟩, Option.some.inj heval⟩

/-- A core header with an extension that is called like the core functions. -/
def extensionCore : Header :=
  ⟨"vulkan_core.h",
    Block.text "#define VK_VERSION_1_0 1"
      "VKAPI_ATTR void VKAPI_CALL vkGetInstanceProcAddr();\nVKAPI_ATTR void VKAPI_CALL vkA();" ++
    Block.text "#define X_EXTENSION_NAME \"core\"" "VKAPI_ATTR void VKAPI_CALL vkB();"⟩

/-- An extension that is called like the core functions gets a group of its own, which no
lookup reaches. -/
theorem not_lookup_reaches :
    ¬∀ (naming : Naming) (headers : List Header) (t : FunctionTable),
      build naming (headers.map Header.parse) = .ok t →
        (t.groups.map Group.name).Nodup ∧
        ∀ g ∈ t.groups, t.group? g.name = some g ∧
          loadInfo t.groups g.name = (g.start, g.count) := by
  intro hclaim
  let table : FunctionTable :=
    ⟨["vkGetInstanceProcAddr", "vkA", "vkB"],
      [⟨"vkGetInstanceProcAddr", 0, 1⟩, ⟨"global", 1, 0⟩, ⟨"core", 1, 1⟩, ⟨"core", 2, 1⟩]⟩
  have hbuild : build {} ([extensionCore].map Header.parse) = .ok table := by decide +kernel
  obtain ⟨_, hlookup⟩ := hclaim {} [extensionCore] table hbuild
  -- asked for the group of vkB, the table tells where that of vkA lies
  exact absurd (hlookup ⟨"core", 2, 1⟩ (by decide)).2 (by decide)

end VulkanGen.FunctionTable
