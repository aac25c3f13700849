import VulkanGen.Header

/-!
# Moving down

What a header declares can be moved down by a number of lines: only line numbers
change.

* `Prototype.shift`, `Diagnostic.shift`  the same declaration further down
-/

namespace VulkanGen

/-- A span that starts further down. -/
def Span.shift (s : Span) (lines : Nat) : Span :=
  { s with line := s.line + lines, endLine := s.endLine + lines }

/-- A prototype that starts further down. -/
def Prototype.shift (p : Prototype) (lines : Nat) : Prototype :=
  { p with line := p.line + lines }

/-- A diagnostic of a declaration that starts further down. -/
def Diagnostic.shift (lines : Nat) : Diagnostic → Diagnostic
  | malformed span cause => malformed (span.shift lines) cause
  | unterminated line text => unterminated (line + lines) text

theorem Prototype.line_shift (p : Prototype) (lines : Nat) :
    (p.shift lines).line = p.line + lines := rfl

/-- The line of a diagnostic moves with it. -/
theorem Diagnostic.line_shift (d : Diagnostic) (lines : Nat) :
    (d.shift lines).line = d.line + lines := by
  cases d <;> rfl

end VulkanGen
