import VulkanGen.Config
import VulkanGen.Prototype

/-!
# Wrappers

A wrapper is what is generated for one prototype.  Four rules shape it, in this
order, and each runs only where it is enabled:

1. device binding: the first parameter of the device type leaves the signature,
   and the call passes the current-device variable in its place;
2. instance binding: the same for the instance type;
3. recorder method: a recorded command, or a function of the command buffer's
   life cycle, that takes the command buffer first becomes a method of the
   recorder class;
4. count query: a list that ends in an element count and a pointer to the
   elements turns the function into one that returns a vector.

A recorder method is never a count query.  At last the return type is normalized.
The rules keep two lists: the public parameters, which get shorter, and the
arguments of the call, which keep the declared positions.

* `appliedRules`  the rules that shaped a wrapper
* `ofPrototype`   the wrapper of a prototype, or the ambiguity that forbids one
-/

namespace VulkanGen

/-- The handle that a parameter was bound to. -/
inductive Binding where
  | device | inst
  deriving DecidableEq, Repr

/-- The return type of a wrapper. -/
inductive WrappedReturn where
  | void
  | result
  | functionPointer
  | resultWithValue (type : String)
  deriving DecidableEq, Repr

/-- How a wrapper does its work. -/
inductive Wrapper.Form where
  /-- One call that is forwarded to the function table. -/
  | forward
  /-- One call for the number of elements and one for the elements. -/
  | countQuery (elementType : String) (returnsStatus : Bool)
  /-- A method of the recorder class that forwards one call. -/
  | recorderMethod
  deriving DecidableEq, Repr

/-- The wrapper of one prototype. -/
structure Wrapper where
  /-- The name in the generated interface. -/
  name : String
  /-- The declared name, which is also the member of the function table. -/
  declaredName : String
  returnType : WrappedReturn
  declaredReturnType : String
  /-- The parameters that are left in the signature. -/
  parameters : ParameterList
  /-- The handle that is bound, if any. -/
  binding : Option Binding
  /-- The arguments of the call; those of a count query are followed by the count
  and the elements. -/
  arguments : List String
  form : Wrapper.Form
  deriving DecidableEq

/-- A prototype that takes both handles, with both binding rules enabled. -/
structure AmbiguousBinding where
  function : String
  deviceType : String
  instanceType : String
  deriving DecidableEq, Repr

/-- The text of an ambiguity. -/
def AmbiguousBinding.message (e : AmbiguousBinding) : String :=
  s!"`{e.function}` takes both a `{e.deviceType}` and a `{e.instanceType}` handle"

/-- The rule that makes a binding. -/
def Binding.rule : Binding → Rule
  | device => .deviceBinding
  | inst => .instanceBinding

/-- The parameter type that is bound. -/
def Binding.type (b : Binding) (naming : Naming) : String :=
  match b with
  | device => naming.deviceType
  | inst => naming.instanceType

/-- The variable that is passed for the bound parameter. -/
def Binding.variableName (b : Binding) (naming : Naming) : String :=
  match b with
  | device => naming.deviceVariable
  | inst => naming.instanceVariable

namespace WrappedReturn

/-- The wrapped form of a declared or derived return type. -/
def normalize (type : String) : WrappedReturn :=
  if type == "void" then void
  else if type == "VkResult" then result
  else if Text.startsWith "PFN_" type then functionPointer
  else resultWithValue type

/-- Whether nothing is returned. -/
def isVoid : WrappedReturn → Bool
  | void => true
  | _ => false

/-- The type in the words of the generated code. -/
def render (naming : Naming) : WrappedReturn → String
  | void => "void"
  | result => naming.resultType
  | functionPointer => naming.functionPointerType
  | resultWithValue type => s!"{naming.resultWithValueType}<{type}>"

end WrappedReturn

namespace Wrapper

/-- Whether a wrapper is a method of the recorder class. -/
def isRecorderMethod (w : Wrapper) : Bool :=
  w.form == .recorderMethod

/-- The rule that gives a wrapper its form. -/
def Form.rule? : Form → Option Rule
  | forward => none
  | countQuery _ _ => some .countQuery
  | recorderMethod => some .commandBuffer

/-- The rules that shaped a wrapper, in rule order. -/
def appliedRules (w : Wrapper) : List Rule :=
  (w.binding.map Binding.rule).toList ++ w.form.rule?.toList

/-- The labels of the rules that shaped a wrapper. -/
def labels (w : Wrapper) : List String :=
  w.appliedRules.map Rule.label

/-- Whether a rule set enables a binding that applies to these parameters. -/
def takes (config : Config) (parameters : ParameterList) (b : Binding) : Bool :=
  config.rules.enables b.rule && parameters.hasType (b.type config.naming)

/-- The binding that applies to a prototype. -/
def binding? (config : Config) (p : Prototype) : Except AmbiguousBinding (Option Binding) :=
  match takes config p.parameters .device, takes config p.parameters .inst with
  | true, true => .error ⟨p.name, config.naming.deviceType, config.naming.instanceType⟩
  | true, false => .ok (some .device)
  | false, true => .ok (some .inst)
  | false, false => .ok none

/-- The public parameters and the call's arguments of a prototype whose handle is bound. -/
def bindHandle (naming : Naming) (parameters : ParameterList) :
    Option Binding → ParameterList × List String
  | none => (parameters, parameters.names)
  | some b =>
    match parameters.removeType (b.type naming) with
    | (none, _) => (parameters, parameters.names)
    | (some (i, _), rest) => (rest, parameters.names.set i (b.variableName naming))

/-- Whether a prototype is named like a command and takes the command buffer first. -/
def recordsCommand (naming : Naming) (p : Prototype) : Bool :=
  (Text.contains naming.commandPrefix p.name || naming.isLifecycle p.name) &&
    (p.parameters.toList.head?.any (·.type == naming.commandBufferType))

/-- The name of a recorder method: `vkCmdDraw` becomes `Draw`, and
`vkBeginCommandBuffer` becomes `Begin`. -/
def methodName (naming : Naming) (name : String) : String :=
  if naming.isLifecycle name then
    let stem := (Text.stripPrefix? "vk".toList name.toList).getD name.toList
    Text.remove "CommandBuffer" (.ofList stem)
  else Text.remove naming.commandPrefix name

/-- The element type, where a list ends in an element count and a pointer to the
elements. -/
def countQuery? (naming : Naming) (parameters : ParameterList) : Option String := do
  let count ← parameters.getAt? (-2)
  let elements ← parameters.getAt? (-1)
  if count.type == naming.countType && Text.endsWith naming.countSuffix count.name &&
      elements.isPointer then
    return .ofList elements.type.toList.dropLast
  else none

/-- The wrapper of a prototype whose binding is known. -/
def shape (config : Config) (p : Prototype) (binding : Option Binding) : Wrapper :=
  let (parameters, arguments) := bindHandle config.naming p.parameters binding
  if config.rules.commandBuffer && recordsCommand config.naming p then
    { name := methodName config.naming p.name
      declaredName := p.name
      returnType := .normalize p.returnType
      declaredReturnType := p.returnType
      parameters := (parameters.removeAt 0).2
      binding := binding
      arguments := arguments.set 0 config.naming.recorderField
      form := .recorderMethod }
  else
    match if config.rules.countQuery then countQuery? config.naming parameters else none with
    | some elementType =>
      { name := p.name
        declaredName := p.name
        returnType := .normalize s!"std::vector<{elementType}>"
        declaredReturnType := p.returnType
        parameters := ((parameters.removeAt (-1)).2.removeAt (-1)).2
        binding := binding
        arguments := arguments.take (arguments.length - 2)
        form := .countQuery elementType (!p.returnsVoid) }
    | none =>
      { name := p.name
        declaredName := p.name
        returnType := .normalize p.returnType
        declaredReturnType := p.returnType
        parameters := parameters
        binding := binding
        arguments := arguments
        form := .forward }

/-- The wrapper of a prototype. -/
def ofPrototype (config : Config) (p : Prototype) : Except AmbiguousBinding Wrapper :=
  (binding? config p).map (shape config p)

/-- The wrappers of prototypes, in order; the first ambiguity wins. -/
def ofPrototypes (config : Config) (ps : List Prototype) :
    Except AmbiguousBinding (List Wrapper) :=
  ps.mapM (ofPrototype config)

end Wrapper

end VulkanGen
