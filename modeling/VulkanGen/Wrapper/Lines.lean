import VulkanGen.Layout.Listing
import VulkanGen.Wrapper.Code

/-!
# The lines of a wrapper

What is written for a wrapper, apart from how it is written.  A declaration is one listing.
A definition is a sequence of lines of code, in which the first part and each call are
listings: the first part of its parameters, a call of its arguments, so that the parenthesis
of the table's accessor is in front of the list.

* `declarationListing`, `definitionLines`  the lines of a declaration and of a definition
* `bodyLines`                              the statements of a definition
* `DeclaresLocal`                          whether one of them declares a variable
-/

namespace VulkanGen.Wrapper

open Layout

/-- The signature at a column.  The name stands behind a qualifier, and a method is `const`
and `noexcept`. -/
def signatureListing (naming : Naming) (column : Nat) (qualifier ending : String) (w : Wrapper) :
    Listing where
  column := column
  opening := (w.returnType.render naming ++ " " ++ qualifier ++ w.name).toList
  items := w.parameters.toList.map fun q => q.render.toList
  ending := ((if w.isRecorderMethod then " const noexcept" else "") ++ ending).toList

/-- The declaration; a method stands inside its class. -/
def declarationListing (naming : Naming) (w : Wrapper) : Listing :=
  w.signatureListing naming (if w.isRecorderMethod then 2 else 0) "" ";"

/-- What stands in front of the name where a wrapper is defined: the class of a method. -/
def qualifier (naming : Naming) (w : Wrapper) : String :=
  if w.isRecorderMethod then naming.recorderClass ++ "::" else ""

/-- The first part of the definition. -/
def headListing (naming : Naming) (w : Wrapper) : Listing :=
  w.signatureListing naming 0 (w.qualifier naming) ""

/-- The statement `opening callee(arguments);`, one level deep. -/
def callListing (opening callee : String) (arguments : List String) : Listing where
  column := 2
  opening := (opening ++ callee).toList
  items := arguments.map String.toList
  ending := [';']

/-- The statements of the definition.  A count query calls twice: for the number of
elements, and for the elements. -/
def bodyLines (naming : Naming) (w : Wrapper) : List CodeLine :=
  let member := naming.tableAccessor ++ "()." ++ w.declaredName
  match w.form with
  | .forward => [.listing (callListing "return " member w.arguments)]
  | .recorderMethod =>
    let keyword := if w.returnType.isVoid then "" else "return "
    [.listing (callListing keyword member w.arguments)]
  | .countQuery _ returnsStatus =>
    let status := if returnsStatus then "result.result = " else ""
    [ .plain ("  const auto& fp = " ++ member ++ ";").toList,
      .plain "  uint32_t count = 0;".toList,
      .listing (callListing "" "fp" (w.arguments ++ ["&count", "nullptr"])),
      .plain ("  " ++ w.returnType.render naming ++ " result;").toList,
      .plain "  result.value.resize(count);".toList,
      .listing (callListing status "fp" (w.arguments ++ ["&count", "result.value.data()"])),
      .plain "  return result;".toList]

/-- The lines of the definition. -/
def definitionLines (naming : Naming) (w : Wrapper) : List CodeLine :=
  .listing (w.headListing naming) :: .plain ['{'] :: (w.bodyLines naming ++ [.plain ['}']])

/-- Whether a statement of the definition declares a local variable, with or without its
first value. -/
def DeclaresLocal (naming : Naming) (w : Wrapper) (name : String) : Prop :=
  ∃ type ending : String, (ending = ";" ∨ ∃ value, ending = " = " ++ value ++ ";") ∧
    .plain ("  " ++ type ++ " " ++ name ++ ending).toList ∈ w.bodyLines naming

end VulkanGen.Wrapper
