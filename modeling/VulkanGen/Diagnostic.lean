import VulkanGen.Declaration.Malformation
import VulkanGen.Declaration.Span

/-!
# Diagnostics

A problem with one declaration never stops the reading of a header: the
declaration is left out, and a diagnostic keeps its lines, its text and, where
the text does not fit the grammar, the cause.
-/

namespace VulkanGen

/-- A declaration that was left out. -/
inductive Diagnostic where
  /-- The text of the span does not fit the grammar. -/
  | malformed (span : Span) (cause : Malformation)
  /-- The input ended inside the declaration that starts on `line`. -/
  | unterminated (line : Nat) (text : String)
  deriving DecidableEq

namespace Diagnostic

/-- The line the declaration starts on. -/
def line : Diagnostic → Nat
  | malformed span _ => span.line
  | unterminated line _ => line

/-- The text of the declaration. -/
def text : Diagnostic → String
  | malformed span _ => span.text
  | unterminated _ text => text

/-- The diagnostic as it is shown to a user. -/
def message : Diagnostic → String
  | malformed span cause => s!"line {span.line}: malformed declaration: {cause.message}"
  | unterminated line _ =>
    s!"line {line}: declaration is not terminated by `);` before end of input"

end Diagnostic

/-- The diagnostic of a span that is still open at the end of the input. -/
def OpenSpan.diagnostic (s : OpenSpan) : Diagnostic :=
  .unterminated s.line s.text

end VulkanGen
