import VulkanGen.Proofs.Artifact.ReadBack
import VulkanGen.Proofs.Block.Extensions
import VulkanGen.Proofs.FunctionTable.Layout
import VulkanGen.Proofs.Header.Isolation
import VulkanGen.Proofs.Header.RoundTrip

/-!
# Function tables are read back

The names of a table come from headers.  The name of an entry is that of a prototype, so
it is an identifier.  The name of a group is that of the bootstrap function, which is an
entry, or one of two fixed names, or that of an extension, which has no quotes and no
line breaks.  So nothing that a header can hold makes a line of the generated files look
like another one, and both files show the table as it is.

## Key results

- `FunctionTable.isIdentifier_of_mem_names`: entries are identifiers
- `FunctionTable.quotable_of_mem_groups`: names of groups can be read back
- `Artifact.read_table_of_build`: the two files of a table that was built from headers
-/

namespace VulkanGen

/-- No character that is not part of a word is in an identifier. -/
theorem not_mem_of_isIdentifier {name : String} (h : isIdentifier name = true) {c : Char}
    (hc : Token.isWordPart c = false) : c ∉ name.toList := by
  intro hmem
  rw [isIdentifier] at h
  cases hname : name.toList with
  | nil =>
    rw [hname] at hmem
    exact absurd hmem List.not_mem_nil
  | cons first rest =>
    rw [hname] at h hmem
    rw [Bool.and_eq_true] at h
    have hpart : Token.isWordPart c = true := by
      -- the first character starts a word, and what starts one can also go on with it
      rcases List.mem_cons.mp hmem with rfl | hrest
      · rw [Token.isWordPart_eq, h.1, Bool.true_or]
      · exact List.all_eq_true.mp h.2 c hrest
    rw [hc] at hpart
    exact Bool.false_ne_true hpart

/-- An identifier can be quoted in a list. -/
private theorem quotable_of_isIdentifier {name : String} (h : isIdentifier name = true) :
    Artifact.Quotable name :=
  ⟨not_mem_of_isIdentifier h (by decide), not_mem_of_isIdentifier h (by decide)⟩

/-- The prototypes of a header have identifiers for names. -/
private theorem Header.isIdentifier_of_mem_prototypes {h : Header} {p : Prototype}
    (hp : p ∈ h.parse.prototypes) : isIdentifier p.name = true := by
  obtain ⟨span, _, hread⟩ := (Span.mem_prototypes_iff _ _).mp hp
  obtain ⟨d, _, hspelled, hd⟩ := Prototype.wellFormed_of_ofSpan hread
  rw [← hd]
  exact hspelled.2.1

namespace FunctionTable

variable {naming : Naming} {headers : List Header} {t : FunctionTable}

/-- The entries of a table are identifiers. -/
theorem isIdentifier_of_mem_names (h : build naming (headers.map Header.parse) = .ok t)
    {name : String} (hname : name ∈ t.names) : isIdentifier name = true := by
  -- whatever block a name is met in, a prototype of the header has it
  have hblock : ∀ {header : ParsedHeader}, header ∈ headers.map Header.parse →
      ∀ {block : Block}, name ∈ blockNames header block → isIdentifier name = true := by
    intro header hheader block hmem
    obtain ⟨parsed, _, rfl⟩ := List.mem_map.mp hheader
    obtain ⟨p, hp, rfl, _⟩ := (mem_blockNames _ _ _).mp hmem
    exact Header.isIdentifier_of_mem_prototypes hp
  rcases (mem_names_of_build h name).mp hname with
    ⟨core, hcore, block, _, _, hmem⟩ | ⟨header, hheader, block, _, _, hmem⟩
  · exact hblock (List.mem_of_mem_head? hcore) hmem
  · exact hblock hheader hmem

/-- The names of a table's groups have no quotes and no line breaks. -/
theorem quotable_of_mem_groups (h : build naming (headers.map Header.parse) = .ok t)
    {g : Group} (hg : g ∈ t.groups) : Artifact.Quotable g.name := by
  obtain ⟨core, hmade⟩ := exists_layout_of_build h
  have hshown : (g.name, t.groupNames g) ∈ layout naming core (headers.map Header.parse) := by
    rw [← hmade.contents_eq, contents]
    exact List.mem_map_of_mem hg
  simp only [layout, List.mem_cons, Prod.mk.injEq] at hshown
  rcases hshown with ⟨hname, _⟩ | ⟨hname, _⟩ | ⟨hname, _⟩ | hextension
  · -- the bootstrap function is an entry as well
    have hentry : naming.bootstrapFunction ∈ t.names := by
      rw [hmade.names_eq]
      exact List.mem_flatMap.mpr ⟨_, List.mem_cons_self, List.mem_singleton_self _⟩
    rw [hname]
    exact quotable_of_isIdentifier (isIdentifier_of_mem_names h hentry)
  · rw [hname]
    exact ⟨by decide, by decide⟩
  · rw [hname]
    exact ⟨by decide, by decide⟩
  · -- an extension is named between the quotes of one line
    obtain ⟨header, hheader, block, hblock, hname⟩ := exists_block_of_mem_attributed hextension
    obtain ⟨parsed, _, rfl⟩ := List.mem_map.mp hheader
    exact Header.extension_of_mem_blocks hblock hname

end FunctionTable

namespace Artifact

/-- The source of a table that was built from headers is read back as the table. -/
theorem readTableSource_of_build {naming : Naming} {headers : List Header} {t : FunctionTable}
    (h : FunctionTable.build naming (headers.map Header.parse) = .ok t) (config : Config) :
    readTableSource config.naming (tableSource config t) = some (t, t.length) :=
  readTableSource_tableSource config (fun _ => FunctionTable.quotable_of_mem_groups h)
    fun _ hname => quotable_of_isIdentifier (FunctionTable.isIdentifier_of_mem_names h hname)

end Artifact

end VulkanGen
