import VulkanGen.FunctionTable.Attribution
import VulkanGen.Proofs.List.FirstOccurrences

/-!
# Extensions are attributed by first sighting

`extensions` places the extension functions block by block, with the names that are
placed so far in one list and the groups in another.  Read one sighting after the
other, it keeps to a simple rule: a sighting adds its function to the group of its
extension if the name is new, and changes nothing otherwise.  What that leads to in
the end are the first sightings, sorted by extension.

## Key results

- `Placement.place_sightings_block`: a block is placed sighting by sighting
- `Placement.Follows.place`: what one sighting preserves
- `extensions_eq_attributed`: the extensions are the ones that functions belong to
- `nodup_attributed`, `ne_nil_of_mem_attributed`: each name once, and no empty group
- `exists_block_of_mem_attributed`: every extension is that of a block
-/

namespace VulkanGen.FunctionTable

/-! ## Groups by extension -/

/-- Sightings by extension: the extensions in the order in which they come up, each
with its functions in order. -/
def byExtension (seen : List (String × String)) : List (String × List String) :=
  (seen.map (·.1)).eraseDups.map fun extension =>
    (extension, (seen.filter (·.1 == extension)).map (·.2))

/-- Functions belong to the extensions of their first sightings. -/
theorem attributed_eq (core : List String) (headers : List ParsedHeader) :
    attributed core headers = byExtension (firstSightings core headers) := rfl

/-- Adding to an extension that has no group yet makes a new one at the end. -/
private theorem addTo_of_not_mem {extension : String} (functions : List String)
    {exts : List (String × List String)} (h : extension ∉ exts.map (·.1)) :
    addTo extension functions exts = exts ++ [(extension, functions)] := by
  induction exts with
  | nil => rfl
  | cons e exts ih =>
    rw [List.map_cons, List.mem_cons, not_or] at h
    have hne : (e.1 == extension) = false := by simpa using Ne.symm h.1
    rw [addTo, hne, if_neg (by simp), ih h.2, List.cons_append]

/-- Adding to an extension that has a group changes that group alone. -/
private theorem addTo_map_of_mem {extension : String} (functions : List String)
    {names : List String}
    (hnodup : names.Nodup) (h : extension ∈ names) (members : String → List String) :
    addTo extension functions (names.map fun e => (e, members e)) =
      names.map fun e => (e, members e ++ if e = extension then functions else []) := by
  induction names with
  | nil => exact absurd h List.not_mem_nil
  | cons e names ih =>
    rw [List.nodup_cons] at hnodup
    rw [List.map_cons, List.map_cons, addTo]
    by_cases he : e = extension
    · -- the group is found, and no later one has the same name
      subst he
      have hrest : names.map (fun e' => (e', members e' ++ if e' = e then functions else [])) =
          names.map fun e' => (e', members e') := by
        refine List.map_congr_left fun e' he' => ?_
        have hne : e' ≠ e := fun heq => hnodup.1 (heq ▸ he')
        rw [if_neg hne, List.append_nil]
      rw [hrest]
      simp
    · -- the group is further down, and this one gets nothing
      have hmem : extension ∈ names := (List.mem_cons.mp h).resolve_left (Ne.symm he)
      rw [ih hnodup.2 hmem]
      simp [he]

/-- Adding twice to an extension is adding once. -/
private theorem addTo_addTo (extension : String) (fs gs : List String)
    (exts : List (String × List String)) :
    addTo extension gs (addTo extension fs exts) = addTo extension (fs ++ gs) exts := by
  induction exts with
  | nil => simp [addTo]
  | cons e exts ih =>
    rw [addTo, addTo]
    split
    · next he =>
      rw [addTo, if_pos he, List.append_assoc]
    · next he =>
      rw [addTo, if_neg he, ih]

/-- One more sighting adds its function to the group of its extension. -/
private theorem byExtension_concat (seen : List (String × String)) (s : String × String) :
    byExtension (seen ++ [s]) = addTo s.1 [s.2] (byExtension seen) := by
  -- the group of an extension gets the function if it is that of the sighting
  have hmembers : ∀ e, ((seen ++ [s]).filter (·.1 == e)).map (·.2) =
      (seen.filter (·.1 == e)).map (·.2) ++ if e = s.1 then [s.2] else [] := by
    intro e
    rw [List.filter_append, List.map_append, List.filter_singleton]
    by_cases he : e = s.1
    · simp [he]
    · have hne : (s.1 == e) = false := by simpa using Ne.symm he
      simp [he, hne]
  simp only [byExtension, hmembers, List.map_append, List.map_singleton, List.eraseDups_concat]
  split
  · next hmem =>
    rw [addTo_map_of_mem _ (List.nodup_eraseDups _) (List.mem_eraseDups.mpr hmem)]
  · next hmem =>
    -- no group of this name yet, so the other groups stay as they are
    have hothers : ∀ e ∈ (seen.map (·.1)).eraseDups, e ≠ s.1 := fun e he heq =>
      hmem (heq ▸ List.mem_eraseDups.mp he)
    rw [addTo_of_not_mem]
    · rw [List.map_append, List.map_singleton, if_pos rfl]
      congr 1
      · exact List.map_congr_left fun e he => by rw [if_neg (hothers e he), List.append_nil]
      · have hnone : seen.filter (·.1 == s.1) = [] := by
          rw [List.filter_eq_nil_iff]
          intro t ht heq
          exact hmem (beq_iff_eq.mp heq ▸ List.mem_map_of_mem ht)
        rw [hnone]
        rfl
    · rw [List.map_map]
      intro h
      obtain ⟨e, he, heq⟩ := List.mem_map.mp h
      exact hothers e he heq

/-! ## Placing sighting by sighting -/

/-- Places the function of one sighting, unless its name is placed already. -/
def Placement.place (s : Placement) (sighting : String × String) : Placement :=
  if s.placed.contains sighting.2 then s
  else ⟨s.placed ++ [sighting.2], addTo sighting.1 [sighting.2] s.extensions⟩

/-- A name that is placed already is not new. -/
private theorem fresh_cons_of_placed {placed : List String} {name : String} (names : List String)
    (h : placed.contains name = true) : fresh placed (name :: names) = fresh placed names := by
  rw [fresh, List.filter_cons_of_neg (by simp only [h, Bool.not_true, Bool.false_eq_true,
    not_false_eq_true])]
  rfl

/-- A new name comes first, and is placed for those behind it. -/
private theorem fresh_cons_of_new {placed : List String} {name : String} (names : List String)
    (h : placed.contains name = false) :
    fresh placed (name :: names) = name :: fresh (placed ++ [name]) names := by
  rw [fresh, List.filter_cons_of_pos (by simp only [h, Bool.not_false]), List.eraseDups_cons,
    List.filter_filter, fresh]
  congr 3
  funext n
  by_cases hn : n = name
  · simp [hn]
  · by_cases hp : n ∈ placed <;> simp [hn, hp]

/-- The new names of a block are placed at once; that is placing them one by one. -/
private theorem Placement.foldl_place_map (s : Placement) (extension : String)
    (names : List String) :
    (names.map (extension, ·)).foldl place s =
      if (fresh s.placed names).isEmpty then s
      else ⟨s.placed ++ fresh s.placed names,
        addTo extension (fresh s.placed names) s.extensions⟩ := by
  -- along the names of the block, with the state that the names in front leave
  induction names generalizing s with
  | nil => rfl
  | cons name names ih =>
    rw [List.map_cons, List.foldl_cons, ih, place]
    cases h : s.placed.contains name with
    | true => rw [if_pos rfl, fresh_cons_of_placed names h]
    | false =>
      rw [if_neg Bool.false_ne_true, fresh_cons_of_new names h]
      split
      · next hempty =>
        -- the name is the only new one of the block
        rw [List.isEmpty_iff.mp hempty]
        rfl
      · rw [addTo_addTo, List.append_assoc]
        rfl

/-- A block is placed sighting by sighting. -/
theorem Placement.place_sightings_block (h : ParsedHeader) (s : Placement) (block : Block) :
    s.addBlock h block = (blockSightings h block).foldl place s := by
  rw [addBlock, blockSightings]
  cases block.extension? with
  | none => rfl
  | some extension => exact (foldl_place_map s extension (blockNames h block)).symm

/-- Headers are placed sighting by sighting. -/
theorem Placement.place_sightings (s : Placement) (headers : List ParsedHeader) :
    headers.foldl addHeader s = (sightings headers).foldl place s := by
  have hblocks : ∀ (h : ParsedHeader) (blocks : List Block) (s : Placement),
      blocks.foldl (addBlock h) s = (blocks.flatMap (blockSightings h)).foldl place s := by
    intro h blocks
    induction blocks with
    | nil => exact fun _ => rfl
    | cons block blocks ih =>
      intro s
      rw [List.foldl_cons, List.flatMap_cons, List.foldl_append, ih, place_sightings_block]
  -- the blocks of a header are placed before the next header is looked at
  induction headers generalizing s with
  | nil => rfl
  | cons h headers ih =>
    rw [List.foldl_cons, ih, addHeader, hblocks, sightings, sightings, List.flatMap_cons,
      List.foldl_append]

/-- The first sighting of each name that is not a core function's. -/
def firsts (core : List String) (seen : List (String × String)) : List (String × String) :=
  (seen.filter fun s => !core.contains s.2).eraseDupsBy fun s t => s.2 == t.2

/-- The first sightings in headers are the first ones of all their sightings. -/
private theorem firstSightings_eq (core : List String) (headers : List ParsedHeader) :
    firstSightings core headers = firsts core (sightings headers) := rfl

/-- Every name that is sighted has a first sighting, unless the core has it. -/
private theorem mem_names_firsts (core : List String) (seen : List (String × String))
    (name : String) :
    name ∈ (firsts core seen).map (·.2) ↔ name ∈ seen.map (·.2) ∧ name ∉ core := by
  rw [firsts, List.mem_map_eraseDupsBy]
  simp only [List.mem_map, List.mem_filter, Bool.not_eq_true', List.contains_eq_mem,
    decide_eq_false_iff_not]
  constructor
  · rintro ⟨s, ⟨hs, hcore⟩, rfl⟩
    exact ⟨⟨s, hs, rfl⟩, hcore⟩
  · rintro ⟨⟨s, hs, rfl⟩, hcore⟩
    exact ⟨s, ⟨hs, hcore⟩, rfl⟩

/-- One more sighting is a first one exactly if its name is new. -/
private theorem firsts_concat (core : List String) (seen : List (String × String))
    (s : String × String) :
    firsts core (seen ++ [s]) =
      if s.2 ∈ core ∨ s.2 ∈ seen.map (·.2) then firsts core seen
      else firsts core seen ++ [s] := by
  have hseen := mem_names_firsts core seen s.2
  rw [firsts, List.filter_append, List.filter_singleton]
  -- core names are left out before repetitions are, so they come first here
  by_cases hcore : s.2 ∈ core
  · rw [if_pos (.inl hcore)]
    simp [hcore, firsts]
  · rw [firsts, List.mem_map_eraseDupsBy] at hseen
    have hnew : (!core.contains s.2) = true := by simpa using hcore
    rw [hnew, cond_true, List.eraseDupsBy_concat]
    simp only [hseen, hcore, not_false_eq_true, and_true, false_or]
    rfl

/-- What is known about the placement when some sightings have been read: the core
names and the names that were seen are placed, and the groups are those of the first
sightings. -/
structure Placement.Follows (core : List String) (seen : List (String × String))
    (s : Placement) : Prop where
  mem_placed : ∀ name, name ∈ s.placed ↔ name ∈ core ∨ name ∈ seen.map (·.2)
  extensions_eq : s.extensions = byExtension (firsts core seen)

/-- One more sighting is followed. -/
theorem Placement.Follows.place {core : List String} {seen : List (String × String)}
    {s : Placement} (h : s.Follows core seen) (sighting : String × String) :
    (s.place sighting).Follows core (seen ++ [sighting]) := by
  have hplaced := h.mem_placed sighting.2
  rw [Placement.place]
  by_cases hold : sighting.2 ∈ s.placed
  · -- the name is placed already, by the core or by an earlier sighting
    rw [if_pos (List.contains_iff_mem.mpr hold)]
    refine ⟨fun name => ?_, ?_⟩
    · rw [h.mem_placed, List.map_append, List.mem_append, List.map_singleton, List.mem_singleton]
      constructor
      · rintro (hc | hs)
        · exact .inl hc
        · exact .inr (.inl hs)
      · rintro (hc | hs | rfl)
        · exact .inl hc
        · exact .inr hs
        · exact hplaced.mp hold
    · rw [h.extensions_eq, firsts_concat, if_pos (hplaced.mp hold)]
  · -- the name is new, so the sighting is a first one
    rw [if_neg fun hc => hold (List.contains_iff_mem.mp hc)]
    refine ⟨fun name => ?_, ?_⟩
    · rw [List.mem_append, h.mem_placed, List.map_append, List.mem_append, List.map_singleton,
        or_assoc]
    · rw [firsts_concat, if_neg (fun hs => hold (hplaced.mpr hs)), byExtension_concat,
        ← h.extensions_eq]

/-- All sightings are followed, one after the other. -/
private theorem Placement.Follows.foldl_place {core : List String} {seen : List (String × String)}
    {s : Placement} (h : s.Follows core seen) (later : List (String × String)) :
    (later.foldl Placement.place s).Follows core (seen ++ later) := by
  induction later generalizing s seen with
  | nil => rwa [List.append_nil]
  | cons sighting later ih =>
    rw [List.foldl_cons, List.append_cons]
    exact ih (h.place sighting)

/-- The extensions of headers are those that functions belong to, each function under
the extension where it is met first. -/
theorem extensions_eq_attributed (core : List String) (headers : List ParsedHeader) :
    extensions core headers = attributed core headers := by
  have hstart : (⟨core, []⟩ : Placement).Follows core [] := ⟨fun name => by simp, rfl⟩
  rw [extensions, Placement.place_sightings, (hstart.foldl_place _).extensions_eq,
    List.nil_append, attributed_eq, firstSightings_eq]

/-! ## The functions of the extensions -/

/-- Adding functions to an extension adds them to those of all extensions. -/
private theorem perm_flatMap_addTo (extension : String) (functions : List String)
    (exts : List (String × List String)) :
    ((addTo extension functions exts).flatMap (·.2)).Perm (exts.flatMap (·.2) ++ functions) := by
  induction exts with
  | nil => simp [addTo]
  | cons e exts ih =>
    rw [addTo]
    split
    · rw [List.flatMap_cons, List.flatMap_cons, List.append_assoc, List.append_assoc]
      -- the functions come behind those of their own extension, not behind all
      exact List.perm_append_comm.append_left e.2
    · rw [List.flatMap_cons, List.flatMap_cons, List.append_assoc]
      exact ih.append_left e.2

/-- Sorting sightings by extension keeps their functions. -/
private theorem perm_flatMap_byExtension (seen : List (String × String)) :
    ((byExtension seen).flatMap (·.2)).Perm (seen.map (·.2)) := by
  induction seen using List.reverseRecOn with
  | nil => exact .refl _
  | append_singleton seen s ih =>
    rw [byExtension_concat, List.map_append]
    exact (perm_flatMap_addTo _ _ _).trans (ih.append_right _)

/-- No function belongs to two extensions, or twice to one. -/
theorem nodup_attributed (core : List String) (headers : List ParsedHeader) :
    ((attributed core headers).flatMap (·.2)).Nodup := by
  rw [attributed_eq, (perm_flatMap_byExtension _).nodup_iff, firstSightings]
  exact List.nodup_map_eraseDupsBy _ _

/-- The functions that are met are those of the extension blocks. -/
theorem mem_names_sightings {headers : List ParsedHeader} {name : String} :
    name ∈ (sightings headers).map (·.2) ↔
      ∃ h ∈ headers, ∃ block ∈ h.blocks, block.isCore = false ∧ name ∈ blockNames h block := by
  have hblock (h : ParsedHeader) (block : Block) :
      name ∈ (blockSightings h block).map (·.2) ↔
        block.isCore = false ∧ name ∈ blockNames h block := by
    rw [blockSightings]
    cases hkind : block.kind with
    | core version => simp [Block.extension?, Block.isCore, hkind]
    | extension extension => simp [Block.extension?, Block.isCore, hkind]
  simp only [sightings, List.map_flatMap, List.mem_flatMap, hblock]

/-- The functions that belong to extensions are those that are met and are no core
functions. -/
theorem mem_attributed {core : List String} {headers : List ParsedHeader} {name : String} :
    name ∈ (attributed core headers).flatMap (·.2) ↔
      name ∈ (sightings headers).map (·.2) ∧ name ∉ core := by
  rw [attributed_eq, (perm_flatMap_byExtension _).mem_iff, firstSightings_eq, mem_names_firsts]

/-- An extension that functions belong to is that of a first sighting, with the
sighted function among its own. -/
private theorem exists_first_of_mem_attributed {core : List String} {headers : List ParsedHeader}
    {e : String × List String} (h : e ∈ attributed core headers) :
    ∃ s ∈ firstSightings core headers, s.1 = e.1 ∧ s.2 ∈ e.2 := by
  rw [attributed_eq, byExtension] at h
  obtain ⟨extension, hextension, rfl⟩ := List.mem_map.mp h
  obtain ⟨s, hs, rfl⟩ := List.mem_map.mp (List.mem_eraseDups.mp hextension)
  have hmem : s ∈ (firstSightings core headers).filter (·.1 == s.1) :=
    List.mem_filter.mpr ⟨hs, beq_self_eq_true s.1⟩
  exact ⟨s, hs, rfl, List.mem_map_of_mem hmem⟩

/-- An extension that functions belong to has one. -/
theorem ne_nil_of_mem_attributed {core : List String} {headers : List ParsedHeader}
    {e : String × List String} (h : e ∈ attributed core headers) : e.2 ≠ [] := by
  obtain ⟨s, _, _, hmem⟩ := exists_first_of_mem_attributed h
  exact List.ne_nil_of_mem hmem

/-- A sighting is one of a function in an extension block of a header. -/
private theorem exists_block_of_mem_sightings {headers : List ParsedHeader} {s : String × String}
    (h : s ∈ sightings headers) :
    ∃ header ∈ headers, ∃ block ∈ header.blocks, block.extension? = some s.1 := by
  rw [sightings] at h
  obtain ⟨header, hheader, h⟩ := List.mem_flatMap.mp h
  obtain ⟨block, hblock, h⟩ := List.mem_flatMap.mp h
  rw [blockSightings] at h
  cases hextension : block.extension? with
  | none =>
    rw [hextension] at h
    exact nomatch h
  | some extension =>
    rw [hextension] at h
    obtain ⟨name, _, rfl⟩ := List.mem_map.mp h
    exact ⟨header, hheader, block, hblock, hextension⟩

/-- An extension that functions belong to is that of an extension block. -/
theorem exists_block_of_mem_attributed {core : List String} {headers : List ParsedHeader}
    {e : String × List String} (h : e ∈ attributed core headers) :
    ∃ header ∈ headers, ∃ block ∈ header.blocks, block.extension? = some e.1 := by
  obtain ⟨s, hs, hname, _⟩ := exists_first_of_mem_attributed h
  have hseen : s ∈ sightings headers :=
    (List.mem_filter.mp (List.eraseDupsBy_subset (fun s : String × String => s.2) _ hs)).1
  rw [← hname]
  exact exists_block_of_mem_sightings hseen

end VulkanGen.FunctionTable
