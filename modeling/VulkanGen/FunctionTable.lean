import VulkanGen.Config
import VulkanGen.Header

/-!
# The function table

The function table lists entry points by name, each once.  It is made of groups
that lie side by side, so that a loader can resolve one part at a time: first the
bootstrap function alone, then the global functions, then the rest of the core
functions, then one group for each extension.

Core functions are those in a core block of the first header; extension
functions are those in an extension block of any header.  A name that is placed
already is not placed again, and an extension that contributes no new name gets
no group.  Blocks that share an extension name share a group, which stands where
that name first contributed something.

* `names_push`, `groups_push`       what adding a group does to a table
* `mem_coreNames`                   which names are core
-/

namespace VulkanGen

/-- A named range of the function table. -/
structure Group where
  name : String
  start : Nat
  count : Nat
  deriving DecidableEq, Repr

/-- The index behind a group. -/
def Group.stop (g : Group) : Nat :=
  g.start + g.count

/-- The names of entry points, and the groups that they lie in. -/
structure FunctionTable where
  names : List String
  groups : List Group
  deriving DecidableEq, Repr

/-- Why there is no function table. -/
inductive FunctionTable.Error where
  /-- No header was given. -/
  | noHeaders
  /-- The function that resolves all others is not a core function. -/
  | missingBootstrap (name : String)
  deriving DecidableEq, Repr

/-- The text of an error. -/
def FunctionTable.Error.message : FunctionTable.Error → String
  | noHeaders => "no headers to build a function table from"
  | missingBootstrap name => s!"required function `{name}` not found in the core declarations"

namespace FunctionTable

/-- The group of the global functions. -/
def globalGroup : String := "global"

/-- The group of the core functions. -/
def coreGroup : String := "core"

/-- The table without entries and groups. -/
def empty : FunctionTable := ⟨[], []⟩

/-- A table with one more group at its end. -/
def push (t : FunctionTable) (name : String) (functions : List String) : FunctionTable :=
  { names := t.names ++ functions
    groups := t.groups ++ [⟨name, t.names.length, functions.length⟩] }

/-- The number of entries. -/
def length (t : FunctionTable) : Nat :=
  t.names.length

/-- The first group of a name. -/
def group? (t : FunctionTable) (name : String) : Option Group :=
  t.groups.find? (·.name == name)

/-- The entry at an index. -/
def nameAt? (t : FunctionTable) (index : Nat) : Option String :=
  t.names[index]?

/-- The entries of a group, in table order. -/
def groupNames (t : FunctionTable) (g : Group) : List String :=
  (t.names.drop g.start).take g.count

@[simp] theorem names_push (t : FunctionTable) (name : String) (functions : List String) :
    (t.push name functions).names = t.names ++ functions := rfl

@[simp] theorem groups_push (t : FunctionTable) (name : String) (functions : List String) :
    (t.push name functions).groups =
      t.groups ++ [⟨name, t.names.length, functions.length⟩] := rfl

/-- The names of a header's prototypes that lie in a block. -/
def blockNames (h : ParsedHeader) (block : Block) : List String :=
  (h.prototypesOf block).map (·.name)

/-- The names in a header's core blocks, each where it is met first. -/
def coreNames (h : ParsedHeader) : List String :=
  ((h.blocks.filter Block.isCore).flatMap (blockNames h)).eraseDups

theorem mem_coreNames (h : ParsedHeader) (name : String) :
    name ∈ coreNames h ↔
      ∃ block ∈ h.blocks, block.isCore = true ∧ name ∈ blockNames h block := by
  simp only [coreNames, List.mem_eraseDups, List.mem_flatMap, List.mem_filter, and_assoc]

/-- The wanted names that are among the core names, in the wanted order, and the
core names that are left. -/
def selectGlobals : List String → List String → List String × List String
  | [], core => ([], core)
  | name :: wanted, core =>
    if core.contains name then
      let (globals, rest) := selectGlobals wanted (core.erase name)
      (name :: globals, rest)
    else selectGlobals wanted core

/-- The names that are placed so far, and the extensions that placed some. -/
structure Placement where
  placed : List String
  extensions : List (String × List String)

/-- Adds functions to the extension of a name, which comes last if it is new. -/
def addTo (name : String) (functions : List String) :
    List (String × List String) → List (String × List String)
  | [] => [(name, functions)]
  | (other, fs) :: rest =>
    if other == name then (other, fs ++ functions) :: rest
    else (other, fs) :: addTo name functions rest

/-- The names that are not placed yet, each where it is met first. -/
def fresh (placed names : List String) : List String :=
  (names.filter fun name => !placed.contains name).eraseDups

/-- Places the new names of one block of a header. -/
def Placement.addBlock (h : ParsedHeader) (s : Placement) (block : Block) : Placement :=
  match block.extension? with
  | none => s
  | some extension =>
    let functions := fresh s.placed (blockNames h block)
    if functions.isEmpty then s
    else ⟨s.placed ++ functions, addTo extension functions s.extensions⟩

/-- Places the new names of all blocks of a header. -/
def Placement.addHeader (s : Placement) (h : ParsedHeader) : Placement :=
  h.blocks.foldl (Placement.addBlock h) s

/-- The extensions of headers and their functions, behind the core names. -/
def extensions (core : List String) (headers : List ParsedHeader) :
    List (String × List String) :=
  (headers.foldl Placement.addHeader ⟨core, []⟩).extensions

/-- The function table of headers, the first of which is the core header. -/
def build (naming : Naming) (headers : List ParsedHeader) : Except Error FunctionTable :=
  match headers with
  | [] => .error .noHeaders
  | coreHeader :: _ =>
    let core := coreNames coreHeader
    let bootstrap := naming.bootstrapFunction
    if core.contains bootstrap then
      let (globals, rest) := selectGlobals naming.globalFunctions (core.erase bootstrap)
      let table := ((empty.push bootstrap [bootstrap]).push globalGroup globals).push coreGroup rest
      .ok ((extensions core headers).foldl (fun t (name, functions) => t.push name functions) table)
    else .error (.missingBootstrap bootstrap)

end FunctionTable

end VulkanGen
