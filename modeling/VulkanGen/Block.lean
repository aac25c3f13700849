import VulkanGen.Text.Blank
import VulkanGen.Text.Search

/-!
# Version and extension blocks

A header groups its prototypes into blocks.  `#define VK_VERSION_1_1 1` opens the
block of a core version, `#define VK_KHR_SURFACE_EXTENSION_NAME "VK_KHR_surface"`
the block of an extension; a block runs until the next one opens.  Of its lines
only those inside a prototypes region belong to it: behind the line
`#ifndef VK_NO_PROTOTYPES` and before the first line that starts with `#endif`.

Blanks at the ends of a line never matter.  A region that is open where the next
block starts ends there, and one that is open at the end of the input runs up to
`lastLine`.

* `ofLinesFrom_nil`, `ofLinesFrom_cons_define`, `ofLinesFrom_cons_other`
  the steps of the scanner
-/

namespace VulkanGen

/-- What opened a block. -/
inductive Block.Kind where
  | core (version : String)
  | extension (name : String)
  deriving DecidableEq, Repr

/-- A range of lines, from `start` up to but not including `stop`. -/
structure Block.Region where
  start : Nat
  stop : Nat
  deriving DecidableEq, Repr

/-- A version or extension block: its kind, the line of its macro, and its
prototypes regions from top to bottom. -/
structure Block where
  kind : Block.Kind
  line : Nat
  prototypes : List Block.Region
  deriving DecidableEq, Repr

namespace Block

/-- The largest line number, where a region ends that nothing closes. -/
def lastLine : Nat := 0xFFFFFFFFFFFFFFFF

/-- Whether a line lies in a region. -/
def Region.contains (region : Region) (line : Nat) : Bool :=
  region.start ≤ line && line < region.stop

/-- Whether a declaration that starts on a line is one of the block's prototypes. -/
def contains (block : Block) (line : Nat) : Bool :=
  block.prototypes.any (·.contains line)

/-- Whether a block belongs to a core version. -/
def isCore (block : Block) : Bool :=
  match block.kind with
  | .core _ => true
  | .extension _ => false

/-- The name of an extension block. -/
def extension? (block : Block) : Option String :=
  match block.kind with
  | .core _ => none
  | .extension name => some name

/-- What the macro of a core version starts with. -/
def versionPrefix : String := "VK_VERSION_"

/-- What the macro of an extension ends in. -/
def extensionSuffix : String := "_EXTENSION_NAME"

/-- The line that opens a prototypes region. -/
def guardLine : String := "#ifndef VK_NO_PROTOTYPES"

/-- What a line that closes a prototypes region starts with. -/
def guardEnd : String := "#endif"

/-- The name and the value that a `#define` line gives to a macro. -/
def define? (line : List Char) : Option (List Char × List Char) := do
  let rest ← Text.stripPrefix? "#define".toList line
  let first ← rest.head?
  if Text.isBlank first then
    let rest := Text.dropBlank rest
    let name := rest.takeWhile fun c => !Text.isBlank c
    return (name, Text.trim (rest.dropWhile fun c => !Text.isBlank c))
  else none

/-- A version number as a macro spells it: digits and underscores. -/
def isVersion (version : List Char) : Bool :=
  !version.isEmpty && version.all fun c => c.isDigit || c == '_'

/-- The text between the first two double quotes of a text that starts with one. -/
def quoted? : List Char → Option (List Char)
  | '"' :: rest =>
    if rest.contains '"' then some (rest.takeWhile (· ≠ '"')) else none
  | _ => none

/-- The kind of block that a macro opens.  A macro that starts like a core
version is never an extension's. -/
def Kind.ofMacro? (name value : List Char) : Option Kind :=
  match Text.stripPrefix? versionPrefix.toList name with
  | some version =>
    if isVersion version && value == ['1'] then some (.core (.ofList version)) else none
  | none =>
    if extensionSuffix.toList.isSuffixOf name then
      (quoted? value).map fun text => .extension (.ofList text)
    else none

/-- The kind of block that a line opens, blanks at its ends aside. -/
def Kind.ofDefine? (line : List Char) : Option Kind := do
  let (name, value) ← define? line
  ofMacro? name value

/-- A block whose end has not been read. -/
structure Growing where
  kind : Kind
  line : Nat
  regions : List Region
  /-- The first line of the region that is open. -/
  guard : Option Nat

namespace Growing

/-- A block that a line opens. -/
def start (kind : Kind) (line : Nat) : Growing :=
  ⟨kind, line, [], none⟩

/-- The block as it is when a region that is still open ends at line `stop`. -/
def close (b : Growing) (stop : Nat) : Block :=
  ⟨b.kind, b.line, b.regions ++ (b.guard.map (⟨·, stop⟩)).toList⟩

/-- The block behind one more line, which opens no block itself. -/
def read (b : Growing) (lineNo : Nat) (line : List Char) : Growing :=
  match b.guard with
  | none =>
    if line == guardLine.toList then { b with guard := some (lineNo + 1) } else b
  | some first =>
    if guardEnd.toList.isPrefixOf line then
      { b with regions := b.regions ++ [⟨first, lineNo⟩], guard := none }
    else b

end Growing

/-- The blocks of lines numbered from `lineNo`, with `current` open in front of them. -/
def ofLinesFrom (lineNo : Nat) (current : Option Growing) : List (List Char) → List Block
  | [] => (current.map (·.close lastLine)).toList
  | line :: rest =>
    let line := Text.trim line
    match Kind.ofDefine? line with
    | some kind =>
      (current.map (·.close lineNo)).toList ++
        ofLinesFrom (lineNo + 1) (some (.start kind lineNo)) rest
    | none => ofLinesFrom (lineNo + 1) (current.map (·.read lineNo line)) rest

/-- The blocks of a header's lines, from top to bottom. -/
def ofLines (lines : List (List Char)) : List Block :=
  ofLinesFrom 1 none lines

@[simp] theorem ofLinesFrom_nil (lineNo : Nat) (current : Option Growing) :
    ofLinesFrom lineNo current [] = (current.map (·.close lastLine)).toList := rfl

/-- A line that opens a block closes the one before it. -/
theorem ofLinesFrom_cons_define (lineNo : Nat) (current : Option Growing) {line : List Char}
    (rest : List (List Char)) {kind : Kind} (h : Kind.ofDefine? (Text.trim line) = some kind) :
    ofLinesFrom lineNo current (line :: rest) =
      (current.map (·.close lineNo)).toList ++
        ofLinesFrom (lineNo + 1) (some (.start kind lineNo)) rest := by
  simp only [ofLinesFrom, h]

/-- Any other line is read by the block that is open. -/
theorem ofLinesFrom_cons_other (lineNo : Nat) (current : Option Growing) {line : List Char}
    (rest : List (List Char)) (h : Kind.ofDefine? (Text.trim line) = none) :
    ofLinesFrom lineNo current (line :: rest) =
      ofLinesFrom (lineNo + 1) (current.map (·.read lineNo (Text.trim line))) rest := by
  simp only [ofLinesFrom, h]

example : Kind.ofDefine? "#define VK_VERSION_1_1 1".toList = some (.core "1_1") := by decide +kernel
example : Kind.ofDefine? "#define VK_VERSION_1_1 2".toList = none := by decide +kernel
example : Kind.ofDefine? "#define  A_EXTENSION_NAME \"VK_a\" // x".toList =
    some (.extension "VK_a") := by decide +kernel

end Block

end VulkanGen
