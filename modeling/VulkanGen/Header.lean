import VulkanGen.Block
import VulkanGen.Declaration.Parser
import VulkanGen.Diagnostic

/-!
# Headers

A header is a named text.  Reading it scans the text twice, once for declaration
spans and once for blocks; the two scans know nothing of each other and meet
only in line numbers.  Every span becomes one prototype or one diagnostic.

* `prototypes_append`, `malformed_append`  spans are read one by one
-/

namespace VulkanGen

/-- An API header: its file name and its text. -/
structure Header where
  name : String
  text : String
  deriving DecidableEq

/-- What a header declares, and which of its declarations were left out. -/
structure ParsedHeader where
  name : String
  /-- The prototypes, from top to bottom. -/
  prototypes : List Prototype
  /-- The declarations that were left out, from top to bottom. -/
  diagnostics : List Diagnostic
  blocks : List Block
  deriving DecidableEq

/-- The prototypes of the spans that fit the grammar. -/
def Span.prototypes (spans : List Span) : List Prototype :=
  spans.filterMap fun span => (Prototype.ofSpan span).toOption

/-- The diagnostics of the spans that do not. -/
def Span.malformed (spans : List Span) : List Diagnostic :=
  spans.filterMap fun span =>
    match Prototype.ofSpan span with
    | .ok _ => none
    | .error cause => some (.malformed span cause)

theorem Span.prototypes_append (as bs : List Span) :
    prototypes (as ++ bs) = prototypes as ++ prototypes bs :=
  List.filterMap_append

theorem Span.malformed_append (as bs : List Span) :
    malformed (as ++ bs) = malformed as ++ malformed bs :=
  List.filterMap_append

/-- The diagnostics of an extraction.  A span that the input leaves open starts
below all others, so its diagnostic comes last. -/
def Extraction.diagnostics (e : Extraction) : List Diagnostic :=
  Span.malformed e.spans ++ (e.unterminated.map (·.diagnostic)).toList

namespace Header

/-- The lines of a header. -/
def lines (h : Header) : List (List Char) :=
  Text.lines h.text.toList

/-- Reads a header. -/
def parse (h : Header) : ParsedHeader :=
  let extraction := Extraction.ofLines h.lines
  { name := h.name
    prototypes := Span.prototypes extraction.spans
    diagnostics := extraction.diagnostics
    blocks := Block.ofLines h.lines }

end Header

namespace ParsedHeader

/-- The prototypes of a block: those that start inside one of its regions. -/
def prototypesOf (h : ParsedHeader) (block : Block) : List Prototype :=
  h.prototypes.filter fun p => block.contains p.line

/-- The first prototype of a name. -/
def prototype? (h : ParsedHeader) (name : String) : Option Prototype :=
  h.prototypes.find? (·.name == name)

end ParsedHeader

end VulkanGen
