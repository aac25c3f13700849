import VulkanGen.Parameter

/-!
# Prototypes

A prototype is a function declaration of an API header: the entry point's name,
its return type, its parameters and the line it starts on.  `render` writes it
without the two calling-convention markers, `signature` ends it with a semicolon.
-/

namespace VulkanGen

/-- The declaration of one entry point. -/
structure Prototype where
  name : String
  returnType : String
  parameters : ParameterList
  line : Nat
  deriving DecidableEq

namespace Prototype

/-- Whether the entry point returns nothing. -/
def returnsVoid (p : Prototype) : Bool :=
  p.returnType == "void"

/-- The declaration without markers and semicolon. -/
def render (p : Prototype) : String :=
  s!"{p.returnType} {p.name}({p.parameters.render})"

/-- The declaration without markers. -/
def signature (p : Prototype) : String :=
  p.render ++ ";"

end Prototype

end VulkanGen
