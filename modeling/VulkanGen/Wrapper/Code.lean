import VulkanGen.Layout
import VulkanGen.Wrapper

/-!
# The code of a wrapper

A wrapper is written twice: as a declaration for the generated header, and as a
definition for the generated source.  The definition's body calls the member of
the function table that has the declared name.  Signatures, heads and calls are
wrapped one by one, each at its own parenthesis: a call at that of its argument
list, not at that of the table's accessor.

* `signature`, `declaration`, `definition`  what is written
* `head`                                    the first part of a definition
* `passedArguments`                         what a call really passes
-/

namespace VulkanGen.Wrapper

/-- Two spaces, one level of indentation. -/
def indentation : String := "  "

/-- A call: the callee with its arguments in parentheses. -/
def call (callee : String) (arguments : List String) : String :=
  callee ++ "(" ++ ", ".intercalate arguments ++ ")"

/-- The statement `opening callee(arguments);`, one level deep, wrapped at the
parenthesis of its arguments, which stands behind the callee. -/
def callStatement (opening callee : String) (arguments : List String) (maxWidth : Nat) : String :=
  let statement := (opening ++ call callee arguments ++ ";").toList
  let position := (opening ++ callee).toList.length
  indentation ++
    Layout.wrapAt (statement.take position) (statement.drop (position + 1))
      indentation.utf8ByteSize maxWidth

/-- The public signature. -/
def signature (naming : Naming) (w : Wrapper) : String :=
  s!"{w.returnType.render naming} {w.name}({w.parameters.render})"

/-- What a recorder method's declaration and definition put behind its signature. -/
def methodSuffix : String := " const noexcept"

/-- The declaration, unwrapped. -/
def declarationLine (naming : Naming) (w : Wrapper) : String :=
  if w.isRecorderMethod then w.signature naming ++ methodSuffix ++ ";"
  else w.signature naming ++ ";"

/-- The declaration; that of a recorder method stands inside its class. -/
def declaration (config : Config) (w : Wrapper) : String :=
  if w.isRecorderMethod then
    indentation ++ Layout.wrapParameters (w.declarationLine config.naming)
      indentation.utf8ByteSize config.maxWidth
  else Layout.wrapParameters (w.declarationLine config.naming) 0 config.maxWidth

/-- The first part of the definition, unwrapped: the signature, with the class in
front of the name of a recorder method. -/
def headLine (naming : Naming) (w : Wrapper) : String :=
  if w.isRecorderMethod then
    s!"{w.returnType.render naming} {naming.recorderClass}::{w.name}({w.parameters.render})" ++
      methodSuffix
  else w.signature naming

/-- The first part of the definition. -/
def head (config : Config) (w : Wrapper) : String :=
  Layout.wrapParameters (w.headLine config.naming) 0 config.maxWidth

/-- The member of the function table that the definition calls. -/
def tableMember (naming : Naming) (w : Wrapper) : String :=
  s!"{naming.tableAccessor}().{w.declaredName}"

/-- The arguments of the two calls of a count query: for the number of elements,
and for the elements. -/
def passedArguments (w : Wrapper) (elements : String) : List String :=
  w.arguments ++ ["&count", elements]

/-- The statements of the definition, each with its line break. -/
def body (config : Config) (w : Wrapper) : String :=
  let member := w.tableMember config.naming
  match w.form with
  | .forward => callStatement "return " member w.arguments config.maxWidth ++ "\n"
  | .recorderMethod =>
    let keyword := if w.returnType.isVoid then "" else "return "
    callStatement keyword member w.arguments config.maxWidth ++ "\n"
  | .countQuery _ returnsStatus =>
    let status := if returnsStatus then "result.result = " else ""
    s!"  const auto& fp = {member};\n" ++
    "  uint32_t count = 0;\n" ++
    callStatement "" "fp" (w.passedArguments "nullptr") config.maxWidth ++ "\n" ++
    s!"  {w.returnType.render config.naming} result;\n" ++
    "  result.value.resize(count);\n" ++
    callStatement status "fp" (w.passedArguments "result.value.data()") config.maxWidth ++ "\n" ++
    "  return result;\n"

/-- The definition. -/
def definition (config : Config) (w : Wrapper) : String :=
  w.head config ++ "\n" ++ Layout.block "" (w.body config) ++ "\n"

/-- The names that a definition brings in itself: the local variables of a count
query, and whatever is passed for a bound parameter. -/
def introducedNames (naming : Naming) (w : Wrapper) : List String :=
  (match w.form with
    | .countQuery _ _ => ["fp", "count", "result"]
    | .recorderMethod => [naming.recorderField]
    | .forward => []) ++
  (w.binding.map (·.variableName naming)).toList

end VulkanGen.Wrapper
