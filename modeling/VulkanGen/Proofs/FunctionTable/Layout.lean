import VulkanGen.Proofs.FunctionTable.Attribution
import VulkanGen.Proofs.FunctionTable.Contents
import VulkanGen.Proofs.FunctionTable.Tiling

/-!
# The layout of the function table

`build` removes names from the list of core names while it looks up the bootstrap
function and the global functions, and what is left becomes the core group.  Said
without the removals, the table is made of these groups:

1. the bootstrap function;
2. the wanted global functions that are core functions, in the wanted order;
3. the other core functions, in the order in which they are met;
4. for each extension, the functions that are met under it first.

So the table is a partition of its names, and no name is in it twice.

## Key results

- `selectGlobals_eq`: what looking up the global functions selects and leaves
- `build_of_inCore`: the table is the one made of these groups
- `build_eq_layout`: the outcome for every list of headers
- `build_partition`: the groups of a table partition its names
-/

namespace VulkanGen.FunctionTable

/-- Looking up the wanted names one by one, with those that are found taken out,
selects each wanted name once and leaves the names that are not wanted. -/
theorem selectGlobals_eq (wanted : List String) {core : List String} (h : core.Nodup) :
    selectGlobals wanted core =
      (wanted.eraseDups.filter fun name => core.contains name,
        core.filter fun name => !wanted.contains name) := by
  -- on the wanted names, with the core that is left after the names taken out so far
  induction wanted generalizing core with
  | nil => simp [selectGlobals]
  | cons name wanted ih =>
    rw [selectGlobals, List.eraseDups_cons, List.eraseDups_filter]
    by_cases hname : name ∈ core
    · -- the name is taken out, so it is not found again
      rw [if_pos (List.contains_iff_mem.mpr hname), ih (h.erase name),
        List.filter_cons_of_pos (List.contains_iff_mem.mpr hname), List.filter_filter,
        h.erase_eq_filter, List.filter_filter]
      refine Prod.ext ?_ ?_
      · refine congrArg (name :: ·) (List.filter_congr fun n _ => ?_)
        by_cases hn : n = name <;> simp [hn]
      · refine List.filter_congr fun n _ => ?_
        by_cases hn : n = name <;> simp [hn]
    · -- the name is no core name, so it does not matter that it is wanted
      have hfalse : core.contains name = false := by simpa using hname
      rw [if_neg (by simp [hname]), ih h, List.filter_cons_of_neg (by simp [hname]),
        List.filter_filter]
      refine Prod.ext (List.filter_congr fun n _ => ?_) (List.filter_congr fun n hn => ?_)
      · by_cases hn : n = name <;> simp [hn, hname]
      · have hne : n ≠ name := fun heq => hname (heq ▸ hn)
        simp [hne]

/-- A name is met in the core: a prototype of the first header has it and lies in one
of the header's core blocks. -/
def InCore (coreHeader : ParsedHeader) (name : String) : Prop :=
  ∃ block ∈ coreHeader.blocks, block.isCore = true ∧
    ∃ p ∈ coreHeader.prototypes, p.name = name ∧ block.contains p.line = true

/-- Whether a name is met in the core can be decided. -/
instance (coreHeader : ParsedHeader) (name : String) : Decidable (InCore coreHeader name) :=
  inferInstanceAs (Decidable (∃ block ∈ _, _))

/-- The names of the core are those that are met there. -/
private theorem mem_coreNames_iff (coreHeader : ParsedHeader) (name : String) :
    name ∈ coreNames coreHeader ↔ InCore coreHeader name := by
  simp only [mem_coreNames, mem_blockNames, InCore]

/-- The groups of a table, with their names and functions. -/
def layout (naming : Naming) (coreHeader : ParsedHeader) (headers : List ParsedHeader) :
    List (String × List String) :=
  let core := coreNames coreHeader
  let bootstrap := naming.bootstrapFunction
  let globals := naming.globalFunctions.eraseDups.filter fun name =>
    core.contains name && name != bootstrap
  let rest := core.filter fun name => name != bootstrap && !naming.globalFunctions.contains name
  (bootstrap, [bootstrap]) :: (globalGroup, globals) :: (coreGroup, rest) ::
    attributed core headers

/-- The bootstrap function is taken out first. -/
private theorem selectGlobals_erase (wanted : List String) {core : List String} (h : core.Nodup)
    (bootstrap : String) :
    selectGlobals wanted (core.erase bootstrap) =
      (wanted.eraseDups.filter fun name => core.contains name && name != bootstrap,
        core.filter fun name => name != bootstrap && !wanted.contains name) := by
  rw [selectGlobals_eq wanted (h.erase bootstrap), h.erase_eq_filter, List.filter_filter]
  refine Prod.ext (List.filter_congr fun name _ => ?_) (List.filter_congr fun name _ => ?_)
  · by_cases hname : name = bootstrap <;> simp [hname]
  · exact Bool.and_comm _ _

/-- With the bootstrap function in the core of the first header, the table is the one
that is made of the groups of the layout. -/
theorem build_of_inCore {naming : Naming} {coreHeader : ParsedHeader}
    (h : InCore coreHeader naming.bootstrapFunction) (later : List ParsedHeader) :
    build naming (coreHeader :: later) =
      .ok (ofContents (layout naming coreHeader (coreHeader :: later))) := by
  have hnodup : (coreNames coreHeader).Nodup := List.nodup_eraseDups _
  have hmem : (coreNames coreHeader).contains naming.bootstrapFunction = true :=
    List.contains_iff_mem.mpr ((mem_coreNames_iff _ _).mpr h)
  rw [build]
  simp only [hmem, if_true, selectGlobals_erase _ hnodup, extensions_eq_attributed]
  rfl

/-- Without the bootstrap function in that core there is no table. -/
theorem build_of_not_inCore {naming : Naming} {coreHeader : ParsedHeader}
    (h : ¬InCore coreHeader naming.bootstrapFunction) (later : List ParsedHeader) :
    build naming (coreHeader :: later) = .error (.missingBootstrap naming.bootstrapFunction) := by
  have hmem : ¬(coreNames coreHeader).contains naming.bootstrapFunction = true := fun hc =>
    h ((mem_coreNames_iff _ _).mp (List.contains_iff_mem.mp hc))
  rw [build]
  exact if_neg hmem

/-- There is no table without headers, and none where the bootstrap function is not in
the core of the first one.  All other headers have a table, which shows the groups of
their layout and lists the functions group by group. -/
theorem build_eq_layout (naming : Naming) (headers : List ParsedHeader) :
    (build naming headers = .error .noHeaders ↔ headers = []) ∧
    (∀ name, build naming headers = .error (.missingBootstrap name) ↔
      name = naming.bootstrapFunction ∧
        ∃ core later, headers = core :: later ∧ ¬InCore core naming.bootstrapFunction) ∧
    (∀ core later, headers = core :: later → InCore core naming.bootstrapFunction →
      ∃ t, build naming headers = .ok t ∧ t.contents = layout naming core headers ∧
        t.names = (layout naming core headers).flatMap (·.2)) := by
  cases headers with
  | nil => simp [build]
  | cons core later =>
    -- with headers given, the bootstrap function alone decides
    by_cases h : InCore core naming.bootstrapFunction
    · have hmade := madeOf_ofContents (layout naming core (core :: later))
      rw [build_of_inCore h]
      refine ⟨by simp, fun name => ?_, ?_⟩
      · simp only [reduceCtorEq, false_iff, not_and, not_exists, not_not]
        rintro _ core' later' ⟨⟩
        exact h
      · rintro core' later' ⟨⟩ _
        exact ⟨_, rfl, hmade.contents_eq, hmade.names_eq⟩
    · rw [build_of_not_inCore h]
      refine ⟨by simp, fun name => ?_, ?_⟩
      · rw [Except.error.injEq, Error.missingBootstrap.injEq]
        exact ⟨fun hname => ⟨hname.symm, core, later, rfl, h⟩, fun hname => hname.1.symm⟩
      · -- no table is claimed for a core without the bootstrap function
        rintro core' later' ⟨⟩ hcore
        exact absurd hcore h

/-- A core header with a function that two versions declare, and an extension that has
two blocks and repeats a core function; a second header repeats an extension's function. -/
def overlapping : List ParsedHeader :=
  let declared (name : String) (line : Nat) : Prototype := ⟨name, "void", .empty, line⟩
  [{ name := "vulkan_core.h"
     prototypes :=
      [declared "vkDestroyInstance" 3, declared "vkCreateInstance" 4,
        declared "vkGetInstanceProcAddr" 8, declared "vkCreateInstance" 9,
        declared "vkQueueSubmit" 10, declared "vkDestroySurface" 13,
        declared "vkQueueSubmit" 14, declared "vkCreateSwapchain" 18,
        declared "vkCreateSurface" 22, declared "vkDestroySurface" 23]
     diagnostics := []
     blocks :=
      [⟨.core "1_0", 1, [⟨3, 5⟩]⟩, ⟨.core "1_1", 6, [⟨8, 11⟩]⟩,
        ⟨.extension "VK_KHR_surface", 11, [⟨13, 15⟩]⟩,
        ⟨.extension "VK_KHR_swapchain", 16, [⟨18, 19⟩]⟩,
        ⟨.extension "VK_KHR_surface", 20, [⟨22, 24⟩]⟩] },
   { name := "vulkan_win32.h"
     prototypes := [declared "vkCreateSurface" 3, declared "vkCreateWin32Surface" 4]
     diagnostics := []
     blocks := [⟨.extension "VK_KHR_win32_surface", 1, [⟨3, 5⟩]⟩] }]

/-- The bootstrap function and a repeated name among the wanted functions change nothing,
and every other function is where it is met first. -/
theorem build_eq_layout_overlapping :
    let naming : Naming :=
      { globalFunctions := ["vkCreateInstance", "vkGetInstanceProcAddr", "vkCreateInstance"] }
    ∃ t, build naming overlapping = .ok t ∧
      t.contents =
        [("vkGetInstanceProcAddr", ["vkGetInstanceProcAddr"]), ("global", ["vkCreateInstance"]),
          ("core", ["vkDestroyInstance", "vkQueueSubmit"]),
          ("VK_KHR_surface", ["vkDestroySurface", "vkCreateSurface"]),
          ("VK_KHR_swapchain", ["vkCreateSwapchain"]),
          ("VK_KHR_win32_surface", ["vkCreateWin32Surface"])] := by
  intro naming
  obtain ⟨t, ht, hcontents, _⟩ :=
    (build_eq_layout naming overlapping).2.2 _ _ rfl (by decide +kernel)
  refine ⟨t, ht, ?_⟩
  -- the layout is short, and the table need not be built to read it
  rw [hcontents]
  decide +kernel

/-! ## The partition -/

/-- The table of headers is made of the groups of their layout. -/
theorem madeOf_of_build {naming : Naming} {coreHeader : ParsedHeader} {later : List ParsedHeader}
    {t : FunctionTable} (h : build naming (coreHeader :: later) = .ok t) :
    t.MadeOf (layout naming coreHeader (coreHeader :: later)) := by
  by_cases hcore : InCore coreHeader naming.bootstrapFunction
  · rw [build_of_inCore hcore, Except.ok.injEq] at h
    exact h ▸ madeOf_ofContents _
  · rw [build_of_not_inCore hcore] at h
    exact nomatch h

/-- A table is made of the groups of a layout. -/
theorem exists_layout_of_build {naming : Naming} {headers : List ParsedHeader}
    {t : FunctionTable} (h : build naming headers = .ok t) :
    ∃ core, t.MadeOf (layout naming core headers) := by
  cases headers with
  | nil => exact nomatch h
  | cons core later => exact ⟨core, madeOf_of_build h⟩

/-- No name is in a table twice. -/
theorem nodup_names_of_build {naming : Naming} {headers : List ParsedHeader}
    {t : FunctionTable} (h : build naming headers = .ok t) : t.names.Nodup := by
  obtain ⟨core, later, _, hboot, hnames⟩ := names_of_build h
  have hperm := leadingNames_perm hboot
  rw [hnames, extensions_eq_attributed, List.nodup_append']
  refine ⟨hperm.nodup_iff.mpr (List.nodup_eraseDups _), nodup_attributed _ _, ?_⟩
  intro name hleading hextension
  exact (mem_attributed.mp hextension).2 (hperm.mem_iff.mp hleading)

/-- The first group of a table is the bootstrap function's. -/
theorem head?_groups_of_madeOf {naming : Naming} {coreHeader : ParsedHeader}
    {headers : List ParsedHeader} {t : FunctionTable}
    (h : t.MadeOf (layout naming coreHeader headers)) :
    t.groups.head? = some ⟨naming.bootstrapFunction, 0, 1⟩ := by
  have htiles := h.tiles
  have hcontents := h.contents_eq
  rw [contents, layout] at hcontents
  obtain ⟨first, rest, hgroups, hfirst, _⟩ := List.map_eq_cons_iff.mp hcontents
  have hmem : first ∈ t.groups := by rw [hgroups]; exact List.mem_cons_self
  obtain ⟨hname, hshown⟩ := Prod.mk.inj hfirst
  -- the group shows one name, so it counts one
  have hcount := length_groupNames (htiles.bounds_of_mem hmem).2
  rw [hshown, List.length_singleton] at hcount
  rw [hgroups] at htiles ⊢
  obtain ⟨name, start, count⟩ := first
  have hstart : start = 0 := htiles.1
  dsimp only at hname hcount
  rw [List.head?_cons, hname, hstart, ← hcount]

/-- An extension that has a group has a function in it. -/
theorem count_pos_of_madeOf {naming : Naming} {coreHeader : ParsedHeader}
    {headers : List ParsedHeader} {t : FunctionTable}
    (h : t.MadeOf (layout naming coreHeader headers)) :
    ∀ g ∈ t.groups.drop 3, 0 < g.count := by
  intro g hg
  have hcontents : (t.groups.drop 3).map (fun g => (g.name, t.groupNames g)) =
      attributed (coreNames coreHeader) headers := by
    rw [List.map_drop, ← contents, h.contents_eq, layout]
    rfl
  have hshown : (g.name, t.groupNames g) ∈ attributed (coreNames coreHeader) headers :=
    hcontents ▸ List.mem_map_of_mem hg
  have hlength := length_groupNames (h.tiles.bounds_of_mem (List.mem_of_mem_drop hg)).2
  -- an extension is only made for a function that is met in it
  have hpos := List.length_pos_iff.mpr (ne_nil_of_mem_attributed hshown)
  dsimp only at hpos
  omega

/-- The groups of a table partition its names: they lie side by side from the first name
to the last, so that every index lies in exactly one of them, no group reaches beyond
the table, and the groups show all names in order.  No name is there twice, and no
extension has an empty group. -/
theorem build_partition {naming : Naming} {headers : List ParsedHeader} {t : FunctionTable}
    (h : build naming headers = .ok t) :
    t.groups.head? = some ⟨naming.bootstrapFunction, 0, 1⟩ ∧
    (t.groups.IsChain fun g next => next.start = g.stop) ∧
    (t.groups.getLast?.map Group.stop = some t.length) ∧
    (∀ g ∈ t.groups.drop 3, 0 < g.count) ∧
    t.names.Nodup ∧
    (∀ i < t.length, ∃! k : Nat, ∃ g : Group, t.groups[k]? = some g ∧ g.start ≤ i ∧ i < g.stop) ∧
    (∀ g ∈ t.groups, g.stop ≤ t.length ∧ (t.groupNames g).length = g.count) ∧
    t.groups.flatMap t.groupNames = t.names := by
  obtain ⟨core, hmade⟩ := exists_layout_of_build h
  have htiles := hmade.tiles
  have hhead := head?_groups_of_madeOf hmade
  refine ⟨hhead, htiles.isChain, ?_, count_pos_of_madeOf hmade, nodup_names_of_build h,
    fun i hi => htiles.existsUnique_group (Nat.zero_le i) hi, fun g hg => ?_, ?_⟩
  · -- there is a last group, since there is a first one
    cases hlast : t.groups.getLast? with
    | none =>
      rw [List.getLast?_eq_none_iff.mp hlast] at hhead
      exact nomatch hhead
    | some g => rw [Option.map_some, htiles.stop_of_getLast? hlast]
  · -- no group ends behind the table, so it shows as many names as it counts
    have hstop := (htiles.bounds_of_mem hg).2
    exact ⟨hstop, length_groupNames hstop⟩
  · rw [htiles.flatMap_groupNames, List.drop_zero, Nat.sub_zero, length, List.take_length]

/-- The table of the overlapping headers: three leading groups, one of them empty, and
three extensions. -/
theorem build_partition_overlapping :
    ∃ t, build { globalFunctions := [] } overlapping = .ok t ∧
      t.groups.map (fun g => (g.start, g.count)) =
        [(0, 1), (1, 0), (1, 3), (4, 2), (6, 1), (7, 1)] ∧
      t.names.Nodup ∧ t.groups.flatMap t.groupNames = t.names := by
  -- the table is evaluated for its groups; what they cover follows from the theorem
  have heval : (build { globalFunctions := [] } overlapping).toOption.map
      (fun t => t.groups.map fun g => (g.start, g.count)) =
        some [(0, 1), (1, 0), (1, 3), (4, 2), (6, 1), (7, 1)] := by
    decide +kernel
  cases ht : build { globalFunctions := [] } overlapping with
  | error e =>
    rw [ht] at heval
    exact nomatch heval
  | ok t =>
    rw [ht] at heval
    obtain ⟨_, _, _, _, hnodup, _, _, hshown⟩ := build_partition ht
    exact ⟨t, rfl, Option.some.inj heval, hnodup, hshown⟩

end VulkanGen.FunctionTable
