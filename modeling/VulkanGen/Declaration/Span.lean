import VulkanGen.Text.Lines
import VulkanGen.Text.Search

/-!
# Declaration spans

A header marks each function declaration with two macros, and a declaration may
run over several lines.  A span opens on a line that holds both markers and
closes on the first line, possibly the same one, that holds `);`.  Lines outside
a span are ignored; while a span is open, further markers mean nothing.

* `Extraction.ofLinesFrom_cons_of_not_opens`  a line that opens nothing is passed over
-/

namespace VulkanGen

/-- The marker in front of a return type. -/
def attributeMarker : String := "VKAPI_ATTR"

/-- The marker in front of a function name. -/
def callMarker : String := "VKAPI_CALL"

/-- What the last line of a declaration holds. -/
def terminator : String := ");"

/-- The text of one declaration and the lines it covers. -/
structure Span where
  line : Nat
  endLine : Nat
  text : String
  deriving DecidableEq, Repr

/-- A declaration whose end has not been read: its first line's number, and its
lines from the last one to the first. -/
structure OpenSpan where
  line : Nat
  newest : List (List Char)
  deriving DecidableEq, Repr

namespace OpenSpan

/-- A span that opens on a line. -/
def start (line : Nat) (first : List Char) : OpenSpan :=
  ⟨line, [first]⟩

/-- A span with one more line. -/
def push (s : OpenSpan) (next : List Char) : OpenSpan :=
  { s with newest := next :: s.newest }

/-- The lines so far, with single spaces between them. -/
def text (s : OpenSpan) : String :=
  .ofList ([' '].intercalate s.newest.reverse)

/-- The span that ends on line `endLine`. -/
def close (s : OpenSpan) (endLine : Nat) : Span :=
  ⟨s.line, endLine, s.text⟩

end OpenSpan

/-- Whether a declaration starts on this line. -/
def opensSpan (line : List Char) : Bool :=
  Text.occursIn attributeMarker.toList line && Text.occursIn callMarker.toList line

/-- Whether an open declaration ends on this line. -/
def closesSpan (line : List Char) : Bool :=
  Text.occursIn terminator.toList line

/-- The spans of a header, and the one that its end leaves open. -/
structure Extraction where
  spans : List Span
  unterminated : Option OpenSpan
  deriving DecidableEq, Repr

namespace Extraction

/-- The span that is open behind a line, given the one that was open before it. -/
def reach (lineNo : Nat) (current : Option OpenSpan) (line : List Char) : Option OpenSpan :=
  match current with
  | some s => some (s.push line)
  | none => if opensSpan line then some (.start lineNo line) else none

/-- The spans of lines numbered from `lineNo`, with `current` open in front of them. -/
def ofLinesFrom (lineNo : Nat) (current : Option OpenSpan) : List (List Char) → Extraction
  | [] => ⟨[], current⟩
  | line :: rest =>
    let line := Text.dropReturn line
    match reach lineNo current line with
    | none => ofLinesFrom (lineNo + 1) none rest
    | some s =>
      if closesSpan line then
        let later := ofLinesFrom (lineNo + 1) none rest
        { later with spans := s.close lineNo :: later.spans }
      else ofLinesFrom (lineNo + 1) (some s) rest

/-- The spans of a header's lines. -/
def ofLines (lines : List (List Char)) : Extraction :=
  ofLinesFrom 1 none lines

@[simp] theorem ofLinesFrom_nil (lineNo : Nat) (current : Option OpenSpan) :
    ofLinesFrom lineNo current [] = ⟨[], current⟩ := rfl

/-- A line that opens nothing is passed over. -/
theorem ofLinesFrom_cons_of_not_opens (lineNo : Nat) {line : List Char} (rest : List (List Char))
    (h : opensSpan (Text.dropReturn line) = false) :
    ofLinesFrom lineNo none (line :: rest) = ofLinesFrom (lineNo + 1) none rest := by
  simp [ofLinesFrom, reach, h]

end Extraction

end VulkanGen
