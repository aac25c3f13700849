import VulkanGen.Proofs.Block.Extensions
import VulkanGen.Proofs.FunctionTable.Growth
import VulkanGen.Proofs.Generation.Closure

/-!
# Adding headers to a generation

The core header alone decides whether there is a generation, which wrappers it has and
what the interface is.  Headers behind it only add to the function table, and what was
in the table stays where it was.

## Key results

- `ofHeaders_of_build`: a generation from the outcome of building the table
- `ofHeaders_append`: what more headers change and what they do not
-/

namespace VulkanGen.Generation

/-- Only the core header is wrapped. -/
private theorem wrapped_append {hs : List ParsedHeader} (hne : hs ≠ []) (ks : List ParsedHeader) :
    wrapped (hs ++ ks) = wrapped hs := by
  obtain ⟨core, later, rfl⟩ := List.exists_cons_of_ne_nil hne
  rfl

/-- Without a table nothing is generated. -/
theorem ofHeaders_of_build_error {config : Config} {headers : List Header}
    {e : FunctionTable.Error}
    (h : FunctionTable.build config.naming (headers.map Header.parse) = .error e) :
    ofHeaders config headers = .error (.table e) := by
  simp only [ofHeaders, h]
  rfl

/-- With a table, the wrappers decide whether there is a generation. -/
theorem ofHeaders_of_build_ok {config : Config} {headers : List Header} {t : FunctionTable}
    (h : FunctionTable.build config.naming (headers.map Header.parse) = .ok t) :
    ofHeaders config headers =
      match Wrapper.ofPrototypes config (wrapped (headers.map Header.parse)) with
      | .error e => .error (.binding e)
      | .ok ws => .ok (assemble config (headers.map Header.parse) t ws) := by
  simp only [ofHeaders, h]
  cases Wrapper.ofPrototypes config (wrapped (headers.map Header.parse)) <;> rfl

/-- More headers do not change whether there is a generation, nor the error if there is
none, nor the wrappers and the interface.  In the function table the three leading
groups stay the same, every group stays in its place, under its name and with its
functions in front, and the names stay in their order. -/
theorem ofHeaders_append (config : Config) {hs : List Header} (hne : hs ≠ [])
    (ks : List Header) :
    (∀ e, ofHeaders config (hs ++ ks) = .error e ↔ ofHeaders config hs = .error e) ∧
    ∀ g, ofHeaders config hs = .ok g → ∃ g', ofHeaders config (hs ++ ks) = .ok g' ∧
      g'.wrappers = g.wrappers ∧ g'.declarations = g.declarations ∧
      g'.implementations = g.implementations ∧
      (g.table.groups.take 3).map (·.name) =
        [config.naming.bootstrapFunction, FunctionTable.globalGroup, FunctionTable.coreGroup] ∧
      g'.table.groups.take 3 = g.table.groups.take 3 ∧
      (∀ (i : Nat) (group : Group), g.table.groups[i]? = some group →
        ∃ group', g'.table.groups[i]? = some group' ∧ group'.name = group.name ∧
          g.table.groupNames group <+: g'.table.groupNames group') ∧
      g.table.names.Sublist g'.table.names := by
  have hparsed : hs.map Header.parse ≠ [] := by
    rwa [ne_eq, List.map_eq_nil_iff]
  -- the table may grow with the headers, and the wrappers stay those of the first one
  have hbuild := FunctionTable.build_append config.naming hparsed (ks.map Header.parse)
  have hwrapped := wrapped_append hparsed (ks.map Header.parse)
  rw [← List.map_append] at hbuild hwrapped
  rcases hbuild with ⟨e, hold, hnew⟩ | ⟨old, new, hold, hnew, hgrown, hnames⟩
  · -- no table, before and after
    rw [ofHeaders_of_build_error hold, ofHeaders_of_build_error hnew]
    exact ⟨fun e' => Iff.rfl, fun g hg => nomatch hg⟩
  · rw [ofHeaders_of_build_ok hold, ofHeaders_of_build_ok hnew, hwrapped]
    -- the wrappers are those of the same core header, so they fail before and after or not at all
    cases Wrapper.ofPrototypes config (wrapped (hs.map Header.parse)) with
    | error e => exact ⟨fun e' => Iff.rfl, fun g hg => nomatch hg⟩
    | ok ws =>
      refine ⟨fun e => by simp only [reduceCtorEq], fun g hg => ?_⟩
      cases hg
      exact ⟨_, rfl, rfl, rfl, rfl, hnames, hgrown.leading_eq, hgrown.group_kept,
        hgrown.names_sublist⟩

/-- A header with an extension puts a group behind those of the core header. -/
theorem ofHeaders_append_extension :
    let core : Header := ⟨"vulkan_core.h", Block.text "#define VK_VERSION_1_0 1"
      "VKAPI_ATTR void VKAPI_CALL vkGetInstanceProcAddr();"⟩
    let platform : Header := ⟨"vulkan_win32.h", Block.text "#define A_EXTENSION_NAME \"VK_a\""
      "VKAPI_ATTR void VKAPI_CALL vkA();"⟩
    ∃ g g', ofHeaders {} [core] = .ok g ∧ ofHeaders {} ([core] ++ [platform]) = .ok g' ∧
      g.table.names = ["vkGetInstanceProcAddr"] ∧
      g'.table.names = ["vkGetInstanceProcAddr", "vkA"] ∧
      g'.wrappers = g.wrappers ∧ g'.table.groups.take 3 = g.table.groups.take 3 := by
  intro core platform
  have hold : (ofHeaders {} [core]).toOption.map (·.table.names) =
      some ["vkGetInstanceProcAddr"] := by
    decide +kernel
  have hnew : (ofHeaders {} ([core] ++ [platform])).toOption.map (·.table.names) =
      some ["vkGetInstanceProcAddr", "vkA"] := by
    decide +kernel
  -- only the tables are evaluated; the wrappers and the leading groups come from the theorem
  obtain ⟨g, hg, hnames⟩ := exists_of_toOption_map hold
  have hne : [core] ≠ [] := List.cons_ne_nil core []
  obtain ⟨g', hg', hwrappers, _, _, _, hleading, _⟩ :=
    (ofHeaders_append {} hne [platform]).2 g hg
  rw [hg'] at hnew
  exact ⟨g, g', hg, hg', hnames, Option.some.inj hnew, hwrappers, hleading⟩

end VulkanGen.Generation
