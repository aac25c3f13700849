import VulkanGen.Block
import VulkanGen.Declaration.Grammar

/-!
# Catalogs

A catalog is a header written from its blocks: each block is the line that opens
it, the guard, one declaration a line, and the end of the guard.

* `CatalogBlock.lines`  the lines of a block
* `Catalog.text`        the text of a catalog
* `Catalog.placed`      the prototypes of each block with the lines they stand on
-/

namespace VulkanGen

/-- The line that opens a block. -/
inductive BlockOpening where
  | core (version : String)
  /-- A macro, without what its name ends in, and the extension's name. -/
  | extension (stem name : String)
  deriving DecidableEq, Repr

namespace BlockOpening

/-- The text of an opening line. -/
def line : BlockOpening → String
  | core version => s!"#define {Block.versionPrefix}{version} 1"
  | extension stem name => s!"#define {stem}{Block.extensionSuffix} \"{name}\""

/-- The kind of block that is opened. -/
def kind : BlockOpening → Block.Kind
  | core version => .core version
  | extension _ name => .extension name

/-- Whether an opening line can be read back.  The macro of an extension is one
word that does not look like a version's, its name holds no quote and no line
break, and the line is not that of a declaration. -/
def Valid : BlockOpening → Prop
  | core version => Block.isVersion version.toList
  | extension stem name =>
    stem.toList.all (fun c => !Text.isBlank c) ∧
      ¬ Block.versionPrefix.toList <+: (stem ++ Block.extensionSuffix).toList ∧
      '"' ∉ name.toList ∧ '\n' ∉ name.toList ∧
      ¬ opensSpan (extension stem name).line.toList

end BlockOpening

/-- A block and the prototypes that it declares. -/
structure CatalogBlock where
  opening : BlockOpening
  prototypes : List Prototype
  deriving DecidableEq

/-- The lines of a block. -/
def CatalogBlock.lines (b : CatalogBlock) : List String :=
  b.opening.line :: Block.guardLine :: b.prototypes.map Prototype.marked ++ [Block.guardEnd]

/-- The blocks of a header, from top to bottom. -/
abbrev Catalog := List CatalogBlock

namespace Catalog

/-- The text of a catalog. -/
def text (c : Catalog) : String :=
  String.join (c.flatMap fun b => b.lines.map (· ++ "\n"))

/-- Prototypes on consecutive lines. -/
def onLines (line : Nat) : List Prototype → List Prototype
  | [] => []
  | p :: rest => { p with line := line } :: onLines (line + 1) rest

/-- The kind, the line and the prototypes of each block of a catalog that starts
on a line. -/
def placed (line : Nat) : Catalog → List (Block.Kind × Nat × List Prototype)
  | [] => []
  | b :: rest =>
    (b.opening.kind, line, onLines (line + 2) b.prototypes) ::
      placed (line + b.lines.length) rest

/-- Whether a catalog can be read back. -/
def Valid (c : Catalog) : Prop :=
  ∀ b ∈ c, b.opening.Valid ∧ ∀ p ∈ b.prototypes, p.WellFormed

end Catalog

end VulkanGen
