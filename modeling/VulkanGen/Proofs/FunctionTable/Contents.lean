import Mathlib.Data.List.Perm.Basic
import VulkanGen.Proofs.FunctionTable.Attribution

/-!
# What the function table lists

`FunctionTable.build` lays out the core names first and then the extensions.  The
core names are only moved about: the bootstrap function and the global functions go
to the front.  The extensions have what is met in the extension blocks and is not
among the core names.

## Key results

- `names_of_build`: the names of a table, in table order
- `leadingNames_perm`: the leading groups hold the core names
- `mem_names_of_build`: which names a table has
-/

namespace VulkanGen.FunctionTable

/-- A block has the names of the prototypes that lie in it. -/
theorem mem_blockNames (h : ParsedHeader) (block : Block) (name : String) :
    name ∈ blockNames h block ↔
      ∃ p ∈ h.prototypes, p.name = name ∧ block.contains p.line = true := by
  simp only [blockNames, ParsedHeader.prototypesOf, List.mem_map, List.mem_filter]
  exact ⟨fun ⟨p, ⟨hp, hline⟩, hname⟩ => ⟨p, hp, hname, hline⟩,
    fun ⟨p, hp, hname, hline⟩ => ⟨p, ⟨hp, hline⟩, hname⟩⟩

/-! ## The leading groups -/

/-- The names of the bootstrap, global and core groups, in table order. -/
def leadingNames (naming : Naming) (core : List String) : List String :=
  let (globals, rest) :=
    selectGlobals naming.globalFunctions (core.erase naming.bootstrapFunction)
  naming.bootstrapFunction :: (globals ++ rest)

/-- Selecting the global functions moves them to the front. -/
private theorem selectGlobals_perm (wanted core : List String) :
    ((selectGlobals wanted core).1 ++ (selectGlobals wanted core).2).Perm core := by
  induction wanted generalizing core with
  | nil => exact .refl core
  | cons name wanted ih =>
    rw [selectGlobals]
    split
    · next h =>
      -- the name moves from its place in the core to the front
      have hmem : name ∈ core := List.contains_iff_mem.mp h
      exact ((ih (core.erase name)).cons name).trans (List.perm_cons_erase hmem).symm
    · exact ih core

/-- The leading groups hold the core names, each as often as before. -/
theorem leadingNames_perm {naming : Naming} {core : List String}
    (h : naming.bootstrapFunction ∈ core) : (leadingNames naming core).Perm core :=
  ((selectGlobals_perm _ _).cons _).trans (List.perm_cons_erase h).symm

/-! ## The table -/

/-- Pushing extensions appends their functions. -/
private theorem names_foldl_push (exts : List (String × List String)) (t : FunctionTable) :
    (exts.foldl (fun t (name, functions) => t.push name functions) t).names =
      t.names ++ exts.flatMap (·.2) := by
  induction exts generalizing t with
  | nil => simp
  | cons e exts ih =>
    rw [List.foldl_cons, ih, names_push, List.append_assoc, List.flatMap_cons]

/-- A table lists the core names first and then the extensions. -/
theorem names_of_build {naming : Naming} {headers : List ParsedHeader} {t : FunctionTable}
    (h : build naming headers = .ok t) :
    ∃ core later, headers = core :: later ∧ naming.bootstrapFunction ∈ coreNames core ∧
      t.names = leadingNames naming (coreNames core) ++
        (extensions (coreNames core) headers).flatMap (·.2) := by
  cases headers with
  -- a table needs a first header, with the bootstrap function in its core
  | nil => exact nomatch h
  | cons core later =>
    simp only [build] at h
    split at h
    · next hboot =>
      rw [Except.ok.injEq] at h
      refine ⟨core, later, rfl, List.contains_iff_mem.mp hboot, ?_⟩
      rw [← h, names_foldl_push]
      simp [leadingNames, empty]
    · exact nomatch h

/-- A table has the core names of the first header, and the names of the extension
blocks of all headers. -/
theorem mem_names_of_build {naming : Naming} {headers : List ParsedHeader} {t : FunctionTable}
    (h : build naming headers = .ok t) (name : String) :
    name ∈ t.names ↔
      (∃ core ∈ headers.head?, ∃ block ∈ core.blocks,
        block.isCore = true ∧ name ∈ blockNames core block) ∨
      (∃ header ∈ headers, ∃ block ∈ header.blocks,
        block.isCore = false ∧ name ∈ blockNames header block) := by
  obtain ⟨core, later, rfl, hboot, hnames⟩ := names_of_build h
  rw [hnames, List.mem_append, (leadingNames_perm hboot).mem_iff, extensions_eq_attributed,
    mem_attributed, mem_names_sightings, mem_coreNames, List.head?_cons]
  simp only [Option.mem_def, Option.some.injEq, exists_eq_left']
  -- a core function that an extension block repeats is a core function
  rw [or_and_left, and_iff_left (Classical.em _)]

end VulkanGen.FunctionTable
