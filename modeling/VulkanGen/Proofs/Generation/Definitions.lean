import VulkanGen.Proofs.Block.Extensions
import VulkanGen.Proofs.FunctionTable.Layout
import VulkanGen.Proofs.Generation.Closure
import VulkanGen.Proofs.Wrapper.Signature

/-!
# Functions that are defined twice

Every prototype of the core header gets a wrapper, and nothing compares the wrappers.
So a function is defined twice exactly if two prototypes become the same function: a
header that repeats a declaration, as a core header does that declares an entry point
in two blocks, or two commands whose names lose their difference.  The function table
does compare its names, and lists such an entry point once.

## Key results

- `keys_of_ofHeaders`: the functions of a generation are those of the prototypes
- `nodup_keys_iff`: when no function is defined twice
-/

namespace VulkanGen.Generation

/-- The functions of a generation are those that the core header's prototypes become. -/
theorem keys_of_ofHeaders {config : Config} {headers : List Header} {g : Generation}
    (h : ofHeaders config headers = .ok g) :
    g.wrappers.map Wrapper.key =
      (wrapped (headers.map Header.parse)).map (Prototype.key config) := by
  obtain ⟨table, wrappers, _, hwrappers, rfl⟩ := (ofHeaders_eq_ok_iff config headers g).mp h
  exact Wrapper.map_eq_of_ofPrototypes (fun _ _ => Wrapper.key_of_ofPrototype) hwrappers

/-- A free function keeps its declared name. -/
private theorem name_of_mem_freeFunctions {config : Config} {headers : List Header} {g : Generation}
    (h : ofHeaders config headers = .ok g) {w : Wrapper}
    (hw : w ∈ Artifact.freeFunctions g.wrappers) : w.name = w.declaredName := by
  obtain ⟨table, wrappers, _, hwrappers, rfl⟩ := (ofHeaders_eq_ok_iff config headers g).mp h
  rw [Artifact.freeFunctions, List.mem_filter, Bool.not_eq_true'] at hw
  obtain ⟨hmem, hfree⟩ := hw
  obtain ⟨p, _, hp⟩ := Wrapper.exists_of_mem_ofPrototypes hwrappers hmem
  -- the name is read off the prototype, where only methods are renamed
  have hkey := Wrapper.key_of_ofPrototype hp
  have hmethod : w.isRecorderMethod = p.isRecorded config := congrArg FunctionKey.isMethod hkey
  have hname : w.name = p.wrapperName config := congrArg FunctionKey.name hkey
  rw [hname, Prototype.wrapperName, ← hmethod, hfree, Wrapper.declaredName_of_ofPrototype hp]
  rfl

/-- No function is defined twice exactly if no two prototypes of the core header become
methods of one name, or free functions of one name, with the same types; and then the
artifacts define no function twice.  That takes a header without repeated declarations,
and with different names only methods can clash.  The names of the table are different
in any case. -/
theorem nodup_keys_iff {config : Config} {headers : List Header} {g : Generation}
    (h : ofHeaders config headers = .ok g) :
    let core := wrapped (headers.map Header.parse)
    ((g.wrappers.map Wrapper.key).Nodup ↔
      core.Pairwise fun p q => p.isRecorded config = q.isRecorded config →
        p.publicTypes config = q.publicTypes config →
          p.wrapperName config ≠ q.wrapperName config) ∧
    (((Artifact.freeFunctions g.wrappers ++ Artifact.recorderMethods g.wrappers).map
      Wrapper.key).Nodup ↔ (g.wrappers.map Wrapper.key).Nodup) ∧
    ((g.wrappers.map Wrapper.key).Nodup → (core.map fun p => (p.name, p.parameters)).Nodup) ∧
    ((core.map (·.name)).Nodup →
      ((Artifact.freeFunctions g.wrappers).map Wrapper.key).Nodup) ∧
    g.table.names.Nodup := by
  intro core
  -- two wrappers are the same function if their prototypes become the same
  have hpairs : (g.wrappers.map Wrapper.key).Nodup ↔
      core.Pairwise fun p q => p.key config ≠ q.key config := by
    rw [keys_of_ofHeaders h, List.Nodup, List.pairwise_map]
  have hperm := Artifact.perm_freeFunctions_recorderMethods g.wrappers
  refine ⟨?_, (hperm.map _).nodup_iff, ?_, ?_, ?_⟩
  · rw [hpairs]
    refine List.Pairwise.iff fun p q => ?_
    -- a key is these three parts
    simp only [Prototype.key, ne_eq, FunctionKey.mk.injEq]
    tauto
  · -- a repeated declaration becomes the same function twice
    intro hnodup
    rw [hpairs] at hnodup
    rw [List.Nodup, List.pairwise_map]
    refine hnodup.imp fun hkeys hsame => hkeys ?_
    obtain ⟨hname, hparameters⟩ := Prod.mk.inj hsame
    exact Prototype.key_congr config hname hparameters
  · intro hnames
    have hfree : ((Artifact.freeFunctions g.wrappers).map (·.declaredName)).Nodup := by
      have hsub : (Artifact.freeFunctions g.wrappers).Sublist g.wrappers := List.filter_sublist
      rw [← declaredNames_of_ofHeaders h] at hnames
      exact (hsub.map _).nodup hnames
    -- two free functions with the same key have the same declared name
    rw [List.Nodup, List.pairwise_map] at hfree ⊢
    refine hfree.imp_of_mem fun {v w} hv hw hdeclared hkeys => hdeclared ?_
    have hname : v.name = w.name := congrArg FunctionKey.name hkeys
    rw [← name_of_mem_freeFunctions h hv, ← name_of_mem_freeFunctions h hw, hname]
  · obtain ⟨table, wrappers, htable, _, rfl⟩ := (ofHeaders_eq_ok_iff config headers g).mp h
    exact FunctionTable.nodup_names_of_build htable

/-- A core header with two blocks, each of which declares one function. -/
def twoBlocks (first second : String) : Header where
  name := "vulkan_core.h"
  text := Block.text "#define VK_VERSION_1_0 1" first ++
    Block.text "#define VK_VERSION_1_1 1" second

/-- A free function and a method are two functions. -/
theorem nodup_keys_of_method_behind :
    let headers := [twoBlocks "VKAPI_ATTR void VKAPI_CALL vkGetInstanceProcAddr(VkDevice d);"
      "VKAPI_ATTR void VKAPI_CALL vkCmdDraw(VkCommandBuffer c, int n);"]
    ∃ g, ofHeaders {} headers = .ok g ∧
      g.wrappers.map Wrapper.key =
        [⟨false, "vkGetInstanceProcAddr", []⟩, ⟨true, "Draw", ["int"]⟩] ∧
      (g.wrappers.map Wrapper.key).Nodup ∧
      ((wrapped (headers.map Header.parse)).map fun p => (p.name, p.parameters)).Nodup := by
  intro headers
  have heval : (ofHeaders {} headers).toOption.map (·.wrappers.map Wrapper.key) =
      some [⟨false, "vkGetInstanceProcAddr", []⟩, ⟨true, "Draw", ["int"]⟩] := by
    decide +kernel
  obtain ⟨g, hg, hkeys⟩ := exists_of_toOption_map heval
  -- the keys are evaluated; that no declaration is repeated follows from them
  have hnodup : (g.wrappers.map Wrapper.key).Nodup := by
    rw [hkeys]
    decide
  exact ⟨g, hg, hkeys, hnodup, (nodup_keys_iff hg).2.2.1 hnodup⟩

/-- A function that two blocks of the core header declare is defined twice. -/
theorem not_nodup_keys :
    ¬∀ (config : Config) (headers : List Header) (g : Generation),
      ofHeaders config headers = .ok g → (g.wrappers.map Wrapper.key).Nodup := by
  intro hall
  let declaration := "VKAPI_ATTR void VKAPI_CALL vkGetInstanceProcAddr();"
  have heval : (ofHeaders {} [twoBlocks declaration declaration]).toOption.map
      (fun g => (g.wrappers.map Wrapper.key, g.table.names)) =
        some ([⟨false, "vkGetInstanceProcAddr", []⟩, ⟨false, "vkGetInstanceProcAddr", []⟩],
          ["vkGetInstanceProcAddr"]) := by
    decide +kernel
  obtain ⟨g, hg, hnames⟩ := exists_of_toOption_map heval
  have hnodup := hall {} _ g hg
  rw [(Prod.mk.inj hnames).1] at hnodup
  exact absurd hnodup (by decide)

end VulkanGen.Generation
