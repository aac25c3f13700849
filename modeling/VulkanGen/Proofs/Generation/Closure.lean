import VulkanGen.Generation
import VulkanGen.Proofs.FunctionTable.Contents
import VulkanGen.Proofs.Wrapper.Shape

/-!
# Wrappers and table members

Wrappers come from every prototype of the core header, wherever it stands; table
members come from the prototypes that lie in a block.  A wrapper calls the member
of its declared name, so the artifacts fit together exactly if every function of
the core header is listed somewhere: in a core block of that header, or in an
extension block of any header.  Nothing checks that: a declaration in front of the
first block, between two regions or behind the last gets a wrapper and no member.

## Key results

- `ofHeaders_eq_ok_iff`: what a generation is made of
- `declaredNames_of_ofHeaders`: wrappers have the names of the prototypes, in order
- `mem_table_names_iff`: the table has the functions that are listed
- `wrappers_call_members_iff`: a wrapper calls a member that exists iff its function
  is listed
-/

namespace VulkanGen.Generation

/-- A generation is assembled from a table and from wrappers that both exist. -/
theorem ofHeaders_eq_ok_iff (config : Config) (headers : List Header) (g : Generation) :
    ofHeaders config headers = .ok g ↔
      ∃ table wrappers,
        FunctionTable.build config.naming (headers.map Header.parse) = .ok table ∧
        Wrapper.ofPrototypes config (wrapped (headers.map Header.parse)) = .ok wrappers ∧
        g = assemble config (headers.map Header.parse) table wrappers := by
  simp only [ofHeaders, bind, Except.bind, pure, Except.pure]
  cases FunctionTable.build config.naming (headers.map Header.parse) with
  | error e => simp [Except.mapError]
  | ok table =>
    cases Wrapper.ofPrototypes config (wrapped (headers.map Header.parse)) with
    | error e => simp [Except.mapError]
    | ok wrappers => simp [Except.mapError, eq_comm]

/-- The wrappers of a generation have the names of the core header's prototypes. -/
theorem declaredNames_of_ofHeaders {config : Config} {headers : List Header} {g : Generation}
    (h : ofHeaders config headers = .ok g) :
    g.wrappers.map (·.declaredName) = (wrapped (headers.map Header.parse)).map (·.name) := by
  obtain ⟨table, wrappers, _, hwrappers, rfl⟩ := (ofHeaders_eq_ok_iff config headers g).mp h
  exact Wrapper.declaredNames_of_ofPrototypes hwrappers

/-- Whether a function is listed: a prototype of its name lies in a core block of the
first header, or in an extension block of any header. -/
def Listed (headers : List ParsedHeader) (name : String) : Prop :=
  (∃ core ∈ headers.head?, ∃ block ∈ core.blocks, block.isCore = true ∧
    ∃ p ∈ core.prototypes, p.name = name ∧ block.contains p.line = true) ∨
  (∃ header ∈ headers, ∃ block ∈ header.blocks, block.isCore = false ∧
    ∃ p ∈ header.prototypes, p.name = name ∧ block.contains p.line = true)

/-- Whether a function is listed can be decided. -/
instance (headers : List ParsedHeader) (name : String) : Decidable (Listed headers name) :=
  inferInstanceAs (Decidable (_ ∨ _))

/-- The table lists the functions that are listed. -/
theorem mem_table_names_iff {config : Config} {headers : List Header} {g : Generation}
    (h : ofHeaders config headers = .ok g) (name : String) :
    name ∈ g.table.names ↔ Listed (headers.map Header.parse) name := by
  obtain ⟨table, wrappers, htable, _, rfl⟩ := (ofHeaders_eq_ok_iff config headers g).mp h
  simp only [assemble, FunctionTable.mem_names_of_build htable, FunctionTable.mem_blockNames,
    Listed]

/-- Whether the structure of the table header has a member for a function. -/
def DeclaresMember (g : Generation) (name : String) : Prop :=
  ("  PFN_" ++ name ++ " " ++ name ++ " { nullptr };\n").toList <:+:
    g.tableHeader.contents.toList

/-- Every entry of the table is a member of the structure. -/
theorem declaresMember_of_mem {config : Config} {headers : List Header} {g : Generation}
    (h : ofHeaders config headers = .ok g) {name : String} (hname : name ∈ g.table.names) :
    DeclaresMember g name := by
  obtain ⟨table, wrappers, _, _, rfl⟩ := (ofHeaders_eq_ok_iff config headers g).mp h
  simp only [assemble] at hname
  obtain ⟨before, after, hnames⟩ := List.append_of_mem hname
  -- the member's line stands between those of the entries in front of it and behind it
  have hline : "  PFN_" ++ name ++ " " ++ name ++ " { nullptr };\n" = Artifact.memberLine name :=
    rfl
  simp only [DeclaresMember, hline, assemble, Artifact.tableHeader, hnames, List.map_append,
    List.map_cons, String.join_append, String.join_cons, String.toList_append, List.append_assoc]
  exact ((List.prefix_append _ _).isInfix.trans (List.suffix_append _ _).isInfix).trans
    (List.suffix_append _ _).isInfix

/-- A wrapper calls a member that exists exactly if its function is listed; so all
wrappers do exactly if every prototype of the core header is listed. -/
theorem wrappers_call_members_iff {config : Config} {headers : List Header} {g : Generation}
    (h : ofHeaders config headers = .ok g) :
    (∀ w ∈ g.wrappers, w.declaredName ∈ g.table.names ∧ DeclaresMember g w.declaredName ↔
      Listed (headers.map Header.parse) w.declaredName) ∧
    ((∀ w ∈ g.wrappers, w.declaredName ∈ g.table.names ∧ DeclaresMember g w.declaredName) ↔
      ∀ p ∈ wrapped (headers.map Header.parse), Listed (headers.map Header.parse) p.name) := by
  -- a name of the table is a member as well, so both ask for the name
  have hmember : ∀ name, name ∈ g.table.names ∧ DeclaresMember g name ↔
      Listed (headers.map Header.parse) name := fun name =>
    ⟨fun hname => (mem_table_names_iff h name).mp hname.1, fun hlisted =>
      have hname := (mem_table_names_iff h name).mpr hlisted
      ⟨hname, declaresMember_of_mem h hname⟩⟩
  refine ⟨fun w _ => hmember w.declaredName, ?_⟩
  -- wrappers and prototypes have the same names, and only the name matters
  simp only [hmember]
  rw [← List.forall_mem_map (f := fun w : Wrapper => w.declaredName)
      (P := Listed (headers.map Header.parse)),
    declaredNames_of_ofHeaders h, List.forall_mem_map]

/-- A generation with given properties, from an evaluation. -/
theorem exists_of_toOption_map {α : Type} {config : Config} {headers : List Header}
    {f : Generation → α} {x : α} (h : (ofHeaders config headers).toOption.map f = some x) :
    ∃ g, ofHeaders config headers = .ok g ∧ f g = x := by
  cases hg : ofHeaders config headers with
  | error e => rw [hg] at h; exact nomatch h
  | ok g =>
    rw [hg] at h
    exact ⟨g, rfl, Option.some.inj h⟩

/-- A core header with one prototypes region, and `vkStray` declared at the end of
the region or behind it. -/
def strayHeader (inside : Bool) : Header :=
  let stray := "VKAPI_ATTR void VKAPI_CALL vkStray();\n"
  { name := "vulkan_core.h"
    text :=
      "#define VK_VERSION_1_0 1\n#ifndef VK_NO_PROTOTYPES\n" ++
      "VKAPI_ATTR void VKAPI_CALL vkGetInstanceProcAddr();\n" ++
      if inside then stray ++ "#endif\n" else "#endif\n" ++ stray }

/-- Inside the region, both wrappers call a member that exists. -/
theorem wrappers_call_members_of_stray_inside :
    ∃ g, ofHeaders {} [strayHeader true] = .ok g ∧
      g.wrappers.map (·.declaredName) = ["vkGetInstanceProcAddr", "vkStray"] ∧
      ∀ w ∈ g.wrappers, w.declaredName ∈ g.table.names ∧ DeclaresMember g w.declaredName := by
  have heval : (ofHeaders {} [strayHeader true]).toOption.map
      (fun g => (g.wrappers.map (·.declaredName), g.table.names)) =
        some (["vkGetInstanceProcAddr", "vkStray"], ["vkGetInstanceProcAddr", "vkStray"]) := by
    decide +kernel
  obtain ⟨g, hg, hnames⟩ := exists_of_toOption_map heval
  obtain ⟨hwrappers, _⟩ := Prod.mk.inj hnames
  exact ⟨g, hg, hwrappers, (wrappers_call_members_iff hg).2.mpr (by decide +kernel)⟩

/-- Behind the region, the second wrapper calls a member that the table does not have. -/
theorem not_wrappers_call_members :
    ¬ ∀ (config : Config) (headers : List Header) (g : Generation),
      ofHeaders config headers = .ok g → ∀ w ∈ g.wrappers, w.declaredName ∈ g.table.names := by
  intro hall
  have heval : (ofHeaders {} [strayHeader false]).toOption.map
      (fun g => (g.wrappers.map (·.declaredName), g.table.names)) =
        some (["vkGetInstanceProcAddr", "vkStray"], ["vkGetInstanceProcAddr"]) := by
    decide +kernel
  obtain ⟨g, hg, hnames⟩ := exists_of_toOption_map heval
  obtain ⟨hwrappers, htable⟩ := Prod.mk.inj hnames
  have hmem : "vkStray" ∈ g.wrappers.map (·.declaredName) := by rw [hwrappers]; decide
  obtain ⟨w, hw, hname⟩ := List.mem_map.mp hmem
  have hlisted := hall {} [strayHeader false] g hg w hw
  rw [hname, htable] at hlisted
  exact absurd hlisted (by decide)

end VulkanGen.Generation
