import VulkanGen.Artifact.Interface
import VulkanGen.Proofs.Generation.Closure
import VulkanGen.Proofs.Wrapper.Lines
import VulkanGen.Proofs.Wrapper.Toggles

/-!
# The two files of the interface agree

The header and the source are written from one list of wrappers, each by a writer that
picks the free functions and the methods from it and that leaves out what belongs to a
disabled rule.  Nothing is lost between them: a wrapper is a method only where the rule is
enabled that makes both writers write methods, and it passes a variable of its own only
where the rule is enabled that makes them write the variable and its setter.

The texts that the two files must hold are written out here once more, so that what is
said about them does not depend on the writers.

## Key results

- `Artifact.declarations_eq`, `Artifact.implementations_eq`: what each file is made of
- `Artifact.providesHandle_of_enables`: an enabled rule has its variable and its setter
- `Wrapper.argumentsProvided_of_ofPrototype`: what the calls pass, and where it comes from
- `Generation.interfaceAgrees_of_ofHeaders`: the two files agree
-/

namespace VulkanGen

/-- The setter of a bound handle. -/
def Binding.setter (b : Binding) (naming : Naming) : String :=
  match b with
  | device => naming.deviceSetter
  | inst => naming.instanceSetter

/-- The name of the setter's parameter. -/
def Binding.parameterName : Binding → String
  | device => "device"
  | inst => "instance"

namespace Artifact

/-! ## The texts of the two files -/

/-- The variable of a bound handle. -/
def variableLine (n : Naming) (b : Binding) : String :=
  "static " ++ b.type n ++ " " ++ b.variableName n ++ " = VK_NULL_HANDLE; " ++ noLintGlobal ++ "\n"

/-- The definition of its setter, which fills the variable. -/
def setterLines (n : Naming) (b : Binding) : String :=
  "void " ++ b.setter n ++ "(" ++ b.type n ++ " " ++ b.parameterName ++ ")\n" ++
  .singleton '{' ++ "\n" ++
  "  " ++ b.variableName n ++ " = " ++ b.parameterName ++ ";\n" ++
  .singleton '}' ++ "\n"

/-- The declaration of its setter. -/
def setterLine (n : Naming) (b : Binding) : String :=
  "void " ++ b.setter n ++ "(" ++ b.type n ++ " " ++ b.parameterName ++ ");\n"

/-- The declaration of the recorder's field. -/
def fieldLine (n : Naming) : String :=
  "  " ++ n.commandBufferType ++ " " ++ n.recorderField ++ " { VK_NULL_HANDLE };\n"

/-- The recorder class up to its first method. -/
def classOpening (n : Naming) : String :=
  "class " ++ n.recorderClass ++ "\n" ++ .singleton '{' ++ "\nprivate:\n" ++
  fieldLine n ++
  "\npublic:\n  " ++ n.recorderClass ++ "(" ++ n.commandBufferType ++ " command_buffer);\n\n"

/-- The recorder class behind its last method. -/
def classEnding : String :=
  .singleton '}' ++ ";\n\n"

/-- The constructor of the recorder class, which fills the field. -/
def constructorLine (n : Naming) : String :=
  n.recorderClass ++ "::" ++ n.recorderClass ++ "(" ++ n.commandBufferType ++
  " command_buffer) : " ++ n.recorderField ++ "(command_buffer) {}\n\n"

/-- What is written for each bound handle whose rule is enabled. -/
def forHandles (rules : Rules) (part : Binding → String) : String :=
  (if rules.deviceBinding then part .device else "") ++
    if rules.instanceBinding then part .inst else ""

/-- The header up to the setters. -/
def headerOpening (n : Naming) : String :=
  let guard := n.headerGuard n.apiFile
  s!"#ifndef {guard}\n#define {guard}\n\n" ++
  s!"#include <{n.coreInclude}>\n\n" ++
  "#include <vector>\n\n" ++
  "namespace " ++ n.apiNamespace ++ "\n" ++ .singleton '{' ++ "\n\n" ++
  formatOff ++
  resultTypes n

/-- The header up to its first function. -/
def headerFront (config : Config) : String :=
  headerOpening config.naming ++
  forHandles config.rules fun b => setterLine config.naming b ++ "\n"

/-- The header behind the recorder class. -/
def headerBack (n : Naming) : String :=
  formatOn ++
  .singleton '}' ++ " // namespace " ++ n.apiNamespace ++ "\n" ++ "\n" ++
  s!"#endif // {n.headerGuard n.apiFile}\n"

/-- The variables of the bound handles, in a namespace without a name. -/
def variableLines (config : Config) : String :=
  "namespace\n" ++ .singleton '{' ++ "\n" ++
  forHandles config.rules (variableLine config.naming) ++
  .singleton '}' ++ " // namespace\n\n"

/-- The source up to the variables. -/
def sourceOpening (n : Naming) : String :=
  s!"#include \"{n.apiFile}.h\"\n\n" ++
  s!"#include \"{n.tableFile}.h\"\n\n" ++
  "namespace " ++ n.apiNamespace ++ "\n" ++ .singleton '{' ++ "\n\n" ++
  s!"using namespace {n.tableNamespace};\n\n" ++
  formatOff

/-- The source up to its first function. -/
def sourceFront (config : Config) : String :=
  sourceOpening config.naming ++
  (if config.rules.deviceBinding || config.rules.instanceBinding then variableLines config
    else "") ++
  forHandles config.rules fun b => setterLines config.naming b ++ "\n"

/-- The source behind the recorder's methods. -/
def sourceBack (n : Naming) : String :=
  formatOn ++ .singleton '}' ++ " // namespace " ++ n.apiNamespace ++ "\n"

/-! ## What the writers write -/

/-- The line of a variable, written out. -/
private theorem handleVariable_eq (n : Naming) (b : Binding) :
    handleVariable (b.type n) (b.variableName n) = variableLine n b := by
  simp only [handleVariable, variableLine, toString_string, String.append_assoc]

/-- The definition of a setter, written out. -/
private theorem setterDefinition_eq (n : Naming) (b : Binding) :
    setterDefinition (b.setter n) (b.type n) b.parameterName (b.variableName n) =
      setterLines n b ++ "\n" := by
  rw [← String.toList_inj]
  unfold setterDefinition setterLines
  simp [Layout.toList_block, toString_string]

/-- The declaration of a setter, written out. -/
private theorem setterDeclaration_eq (n : Naming) (b : Binding) :
    setterDeclaration (b.setter n) (b.type n) b.parameterName = setterLine n b ++ "\n" := by
  rw [← String.toList_inj]
  unfold setterDeclaration setterLine
  simp [toString_string]

/-- The recorder class around its methods, written out. -/
private theorem recorderClass_eq (n : Naming) (methods : String) :
    recorderClass n methods = classOpening n ++ methods ++ classEnding := by
  rw [← String.toList_inj]
  unfold recorderClass classOpening fieldLine classEnding
  simp [Layout.toList_block, toString_string]

/-- The constructor of the recorder class, written out. -/
private theorem recorderConstructor_eq (n : Naming) :
    recorderConstructor n = constructorLine n := by
  rw [← String.toList_inj]
  unfold recorderConstructor constructorLine
  simp [toString_string]

/-- Lines in a namespace, written out. -/
private theorem inNamespace_eq (name lines : String) :
    inNamespace name lines =
      "namespace " ++ name ++ "\n" ++ .singleton '{' ++ "\n\n" ++ lines ++ .singleton '}' ++
        " // namespace " ++ name ++ "\n" := by
  rw [← String.toList_inj]
  unfold inNamespace
  simp [Layout.toList_block]

/-- Lines in braces of their own, written out. -/
private theorem block_eq (lines : String) :
    Layout.block "" lines = .singleton '{' ++ "\n" ++ lines ++ .singleton '}' := by
  rw [← String.toList_inj]
  simp [Layout.toList_block]

/-- What is written for the handles, one after the other. -/
private theorem forHandles_eq (rules : Rules) (part : Binding → String) {device inst : String}
    (hdevice : part .device = device) (hinst : part .inst = inst) :
    forHandles rules part =
      whenever rules.deviceBinding device ++ whenever rules.instanceBinding inst := by
  subst hdevice hinst
  rfl

/-- The header declares each free function and then, in the recorder class, each method. -/
theorem declarations_eq (config : Config) (ws : List Wrapper) :
    declarations config ws =
      headerFront config ++
        .join ((freeFunctions ws).map fun w => w.declaration config ++ "\n\n") ++
        (if config.rules.commandBuffer then
          classOpening config.naming ++
            .join ((recorderMethods ws).map fun w => w.declaration config ++ "\n\n") ++
            classEnding
        else "") ++
        headerBack config.naming := by
  have hsetters := forHandles_eq config.rules (fun b => setterLine config.naming b ++ "\n")
    (setterDeclaration_eq config.naming .device).symm
    (setterDeclaration_eq config.naming .inst).symm
  unfold declarations headerFront headerOpening headerBack
  simp only [hsetters, inNamespace_eq, recorderClass_eq, whenever, String.append_assoc]
  rfl

/-- The source defines each free function and then, behind the recorder's constructor, each
method. -/
theorem implementations_eq (config : Config) (ws : List Wrapper) :
    implementations config ws =
      sourceFront config ++
        .join ((freeFunctions ws).map fun w => w.definition config ++ "\n") ++
        (if config.rules.commandBuffer then
          constructorLine config.naming ++
            .join ((recorderMethods ws).map fun w => w.definition config ++ "\n")
        else "") ++
        sourceBack config.naming := by
  have hsetters := forHandles_eq config.rules (fun b => setterLines config.naming b ++ "\n")
    (setterDefinition_eq config.naming .device).symm (setterDefinition_eq config.naming .inst).symm
  have hvariables := forHandles_eq config.rules (variableLine config.naming)
    (handleVariable_eq config.naming .device).symm (handleVariable_eq config.naming .inst).symm
  unfold implementations sourceFront sourceOpening sourceBack variableLines
  simp only [hsetters, hvariables, inNamespace_eq, block_eq, recorderConstructor_eq, whenever,
    String.append_assoc]
  rfl

/-! ## What the files provide -/

/-- Whether a text holds another one that starts at the beginning of a line. -/
def HasLines (text lines : String) : Prop :=
  ('\n' :: lines.toList) <:+: text.toList

/-- Whether the interface provides the variable of a bound handle.  In front of all
definitions, the source has the variable and the setter that fills it; in front of all
declarations, the header declares the setter. -/
structure ProvidesHandle (config : Config) (b : Binding) : Prop where
  storage : HasLines (sourceFront config) (variableLine config.naming b)
  definition : HasLines (sourceFront config) (setterLines config.naming b)
  declaration : HasLines (headerFront config) (setterLine config.naming b)

/-- Whether the interface provides the recorder's field: the header has the class, and the
class declares the field in front of its methods. -/
structure ProvidesField (config : Config) : Prop where
  rule : config.rules.commandBuffer = true
  field : HasLines (classOpening config.naming) (fieldLine config.naming)

/-- Whether a text ends in a line break. -/
private def EndsLine (text : String) : Prop :=
  ['\n'] <:+ text.toList

/-- A text ends like its last part. -/
private theorem EndsLine.append (front : String) {text : String} (h : EndsLine text) :
    EndsLine (front ++ text) := by
  rw [EndsLine, String.toList_append]
  exact h.trans (List.suffix_append _ _)

/-- What is left out changes nothing. -/
private theorem EndsLine.append_ite {front text : String} (c : Prop) [Decidable c]
    (hfront : EndsLine front) (h : EndsLine text) :
    EndsLine (front ++ if c then text else "") := by
  split
  · exact h.append front
  · rwa [String.append_empty]

/-- A text that a line break is put behind ends in it. -/
private theorem endsLine_append_break (text : String) : EndsLine (text ++ "\n") := by
  rw [EndsLine, String.toList_append]
  exact List.suffix_append _ _

/-- What stands behind a text that ends in a line break starts a line. -/
private theorem EndsLine.hasLines {front : String} (h : EndsLine front) (lines behind : String) :
    HasLines (front ++ lines ++ behind) lines := by
  obtain ⟨before, hbefore⟩ := h
  refine ⟨before, behind.toList, ?_⟩
  rw [String.toList_append, String.toList_append, ← hbefore]
  simp only [List.append_assoc, List.cons_append, List.nil_append]

/-- Lines of a text are lines of it behind another one. -/
private theorem HasLines.append_left {text lines : String} (front : String)
    (h : HasLines text lines) : HasLines (front ++ text) lines := by
  rw [HasLines, String.toList_append]
  exact h.trans (List.suffix_append _ _).isInfix

/-- They are also lines of it in front of another one. -/
private theorem HasLines.append_right {text lines : String} (h : HasLines text lines)
    (behind : String) : HasLines (text ++ behind) lines := by
  rw [HasLines, String.toList_append]
  exact h.trans (List.prefix_append _ _).isInfix

/-- Of longer lines, the first ones are there as well. -/
private theorem HasLines.of_append {text lines behind : String}
    (h : HasLines text (lines ++ behind)) : HasLines text lines := by
  rw [HasLines, String.toList_append] at h
  exact (List.prefix_append ('\n' :: lines.toList) behind.toList).isInfix.trans h

/-- What is written for a handle whose rule is enabled starts a line. -/
private theorem hasLines_forHandles {rules : Rules} {b : Binding} {front : String}
    (part : Binding → String) (h : rules.enables b.rule = true) (hfront : EndsLine front)
    (hdevice : EndsLine (part .device)) : HasLines (front ++ forHandles rules part) (part b) := by
  rw [forHandles]
  cases b with
  | device =>
    have hrule : rules.deviceBinding = true := h
    rw [if_pos hrule, ← String.append_assoc]
    exact hfront.hasLines _ _
  | inst =>
    have hrule : rules.instanceBinding = true := h
    -- the device comes first, whether its rule is enabled or not
    have hlines := (hfront.append_ite (rules.deviceBinding = true) hdevice).hasLines (part .inst) ""
    rw [if_pos hrule, ← String.append_assoc]
    rwa [String.append_empty] at hlines

/-- In front of the setters, the header ends in a line break. -/
private theorem endsLine_headerOpening (n : Naming) : EndsLine (headerOpening n) := by
  have hend : EndsLine ";\n\n" := ⟨[';', '\n'], rfl⟩
  unfold headerOpening resultTypes structType
  exact ((hend.append _).append _).append _

/-- So does the source in front of the variables, and behind them. -/
private theorem endsLine_sourceOpening (n : Naming) : EndsLine (sourceOpening n) := by
  have hend : EndsLine formatOff := ⟨"// clang-format off\n".toList, rfl⟩
  unfold sourceOpening
  exact hend.append _

/-- The variables end in a line break. -/
private theorem endsLine_variableLines (config : Config) : EndsLine (variableLines config) := by
  have hend : EndsLine " // namespace\n\n" := ⟨" // namespace\n".toList, rfl⟩
  unfold variableLines
  exact hend.append _

/-- Where the rule of a binding is enabled, its variable is provided. -/
theorem providesHandle_of_enables {config : Config} {b : Binding}
    (h : config.rules.enables b.rule = true) : ProvidesHandle config b := by
  -- either rule is enough for the variables to be written
  have hvariables : (config.rules.deviceBinding || config.rules.instanceBinding) = true := by
    rw [Bool.or_eq_true]
    cases b with
    | device => exact .inl h
    | inst => exact .inr h
  constructor
  · -- the variables stand in braces of their own, in front of the setters
    have hlines := hasLines_forHandles (variableLine config.naming) h
      (endsLine_append_break ("namespace\n" ++ .singleton '{')) (endsLine_append_break _)
    unfold sourceFront variableLines
    rw [if_pos hvariables]
    exact (((hlines.append_right _).append_right _).append_left _).append_right _
  · have hfront := (endsLine_sourceOpening config.naming).append_ite
      ((config.rules.deviceBinding || config.rules.instanceBinding) = true)
      (endsLine_variableLines config)
    -- the setters stand behind the variables, each with an empty line behind it
    exact (hasLines_forHandles (fun b => setterLines config.naming b ++ "\n") h hfront
      (endsLine_append_break _)).of_append
  · have hfront := endsLine_headerOpening config.naming
    exact (hasLines_forHandles (fun b => setterLine config.naming b ++ "\n") h hfront
      (endsLine_append_break _)).of_append

/-- Where methods are written, the field that they use is provided. -/
theorem providesField_of_rule {config : Config} (h : config.rules.commandBuffer = true) :
    ProvidesField config := by
  refine ⟨h, ?_⟩
  have hprivate : EndsLine "\nprivate:\n" := ⟨"\nprivate:".toList, rfl⟩
  unfold classOpening
  have hlines := (hprivate.append ("class " ++ config.naming.recorderClass ++ "\n" ++
    .singleton '{')).hasLines (fieldLine config.naming) "\npublic:\n  "
  exact (((hlines.append_right _).append_right _).append_right _).append_right _

end Artifact

namespace Wrapper

/-! ## What a call passes -/

/-- Where an item of a call in a definition comes from, if there is something for it to
name. -/
inductive Provided (config : Config) (p : Prototype) (w : Wrapper) (i : Nat) : String → Prop
  /-- The declared parameter at its position. -/
  | parameter {name : String} (h : p.parameters.names[i]? = some name) :
    Provided config p w i name
  /-- The variable of the handle that the wrapper is bound to. -/
  | handle (b : Binding) (hbinding : w.binding = some b)
      (h : Artifact.ProvidesHandle config b) :
    Provided config p w i (b.variableName config.naming)
  /-- The field of the recorder. -/
  | field (hform : w.form = .recorderMethod) (h : Artifact.ProvidesField config) :
    Provided config p w i config.naming.recorderField
  /-- Where a count query takes the number of elements. -/
  | count (h : w.DeclaresLocal config.naming "count") : Provided config p w i "&count"
  /-- What a count query passes in place of elements, when it asks for their number. -/
  | null (h : w.DeclaresLocal config.naming "count") : Provided config p w i "nullptr"
  /-- Where a count query takes the elements. -/
  | elements (h : w.DeclaresLocal config.naming "result") :
    Provided config p w i "result.value.data()"

/-- Whether everything that the calls in a definition list is provided. -/
def ArgumentsProvided (config : Config) (p : Prototype) (w : Wrapper) : Prop :=
  ∀ l, .listing l ∈ w.bodyLines config.naming →
    ∀ i a, l.items[i]? = some (String.toList a) → w.Provided config p i a

/-- Methods are written only where their rule is enabled. -/
private theorem commandBuffer_of_form {config : Config} {p : Prototype} {w : Wrapper}
    (h : ofPrototype config p = .ok w) (hform : w.form = .recorderMethod) :
    config.rules.commandBuffer = true := by
  have hrule : w.form.rule? = some .commandBuffer := by
    rw [hform]
    rfl
  exact enables_of_mem_appliedRules h (mem_appliedRules_iff.mpr (.inr hrule))

/-- A call passes declared names and what the interface provides, and nothing else. -/
theorem argumentsProvided_of_ofPrototype {config : Config} {p : Prototype} {w : Wrapper}
    (h : ofPrototype config p = .ok w) : ArgumentsProvided config p w := by
  intro l hl i a ha
  -- an item is an argument of the wrapper, or what a count query adds to them
  rcases item_cases h hl ha with hname | ⟨b, hb, rfl⟩ | ⟨hform, rfl⟩ |
    ⟨⟨elementType, returnsStatus, hform⟩, hquery⟩
  · exact .parameter hname
  · -- the variable of a handle is passed where the rule of the handle has applied
    have hrule := enables_of_mem_appliedRules h (mem_appliedRules_iff.mpr (.inl ⟨b, hb, rfl⟩))
    exact .handle b hb (Artifact.providesHandle_of_enables hrule)
  · exact .field hform (Artifact.providesField_of_rule (commandBuffer_of_form h hform))
  · -- the variables of a count query
    have hlocal : ∀ name ∈ ["fp", "count", "result"], w.DeclaresLocal config.naming name := by
      intro name hname
      apply declaresLocal_of_mem_localNames
      rw [localNames, hform]
      exact hname
    simp only [List.mem_cons, List.not_mem_nil, or_false] at hquery
    rcases hquery with rfl | rfl | rfl
    · exact .count (hlocal "count" (by decide))
    · exact .null (hlocal "count" (by decide))
    · exact .elements (hlocal "result" (by decide))

end Wrapper

/-! ## The two files -/

/-- How the two files of an interface agree, for the prototypes that are wrapped. -/
structure Generation.InterfaceAgrees (config : Config) (ps : List Prototype) (g : Generation) :
    Prop where
  /-- Each wrapper is a free function or a method, once. -/
  complete : (Artifact.freeFunctions g.wrappers ++ Artifact.recorderMethods g.wrappers).Perm
    g.wrappers
  /-- The form of a wrapper tells which of the two it is. -/
  forms : (∀ w ∈ Artifact.freeFunctions g.wrappers, w.form ≠ .recorderMethod) ∧
    ∀ w ∈ Artifact.recorderMethods g.wrappers, w.form = .recorderMethod
  /-- Both are in the order of the wrappers. -/
  inOrder : (Artifact.freeFunctions g.wrappers).Sublist g.wrappers ∧
    (Artifact.recorderMethods g.wrappers).Sublist g.wrappers
  /-- No method is dropped with the recorder class. -/
  noMethods : config.rules.commandBuffer = false → Artifact.recorderMethods g.wrappers = []
  /-- The header declares each wrapper once, a method inside the class. -/
  declarations : g.declarations.contents =
    Artifact.headerFront config ++
      .join ((Artifact.freeFunctions g.wrappers).map fun w => w.declaration config ++ "\n\n") ++
      (if config.rules.commandBuffer then
        Artifact.classOpening config.naming ++
          .join ((Artifact.recorderMethods g.wrappers).map fun w =>
            w.declaration config ++ "\n\n") ++
          Artifact.classEnding
      else "") ++
      Artifact.headerBack config.naming
  /-- The source defines each wrapper once, a method behind the constructor. -/
  implementations : g.implementations.contents =
    Artifact.sourceFront config ++
      .join ((Artifact.freeFunctions g.wrappers).map fun w => w.definition config ++ "\n") ++
      (if config.rules.commandBuffer then
        Artifact.constructorLine config.naming ++
          .join ((Artifact.recorderMethods g.wrappers).map fun w =>
            w.definition config ++ "\n")
      else "") ++
      Artifact.sourceBack config.naming
  /-- A declaration is the signature of its wrapper, wrapped.  A definition starts with the
  same signature and goes on with the statements of the body in braces, each line wrapped by
  itself. -/
  signatures : ∀ w ∈ g.wrappers,
    Layout.Wraps ((w.declarationListing config.naming).laid 0) (w.declaration config).toList ∧
      Layout.WrapsLines (w.definitionLines config.naming) (w.definition config).toList
  /-- There is one wrapper for each prototype, and its calls pass what there is. -/
  arguments : List.Forall₂ (fun p w => Wrapper.ofPrototype config p = .ok w ∧
    w.ArgumentsProvided config p) ps g.wrappers

namespace Generation

/-- Where nothing records commands, no wrapper is a method. -/
theorem recorderMethods_eq_nil {config : Config} {ps : List Prototype} {ws : List Wrapper}
    (h : Wrapper.ofPrototypes config ps = .ok ws) (hrule : config.rules.commandBuffer = false) :
    Artifact.recorderMethods ws = [] := by
  refine List.eq_nil_iff_forall_not_mem.mpr fun w hw => ?_
  obtain ⟨hmem, hform⟩ := Artifact.mem_recorderMethods_iff.mp hw
  obtain ⟨p, _, hp⟩ := Wrapper.exists_of_mem_ofPrototypes h hmem
  have hon := Wrapper.commandBuffer_of_form hp hform
  exact Bool.false_ne_true (hrule.symm.trans hon)

/-- The two files of the interface agree under every rule set. -/
theorem interfaceAgrees_of_ofHeaders {config : Config} {headers : List Header} {g : Generation}
    (h : ofHeaders config headers = .ok g) :
    InterfaceAgrees config (wrapped (headers.map Header.parse)) g := by
  obtain ⟨table, wrappers, _, hwrappers, rfl⟩ := (ofHeaders_eq_ok_iff config headers g).mp h
  -- free functions and methods are the wrappers, each in the file and the place of its form
  constructor
  · exact Artifact.perm_freeFunctions_recorderMethods wrappers
  · exact ⟨fun w hw => (Artifact.mem_freeFunctions_iff.mp hw).2,
      fun w hw => (Artifact.mem_recorderMethods_iff.mp hw).2⟩
  · exact ⟨List.filter_sublist, List.filter_sublist⟩
  · exact recorderMethods_eq_nil hwrappers
  · -- the texts of the two files, whole
    exact Artifact.declarations_eq config wrappers
  · exact Artifact.implementations_eq config wrappers
  · intro w _
    exact ⟨w.wraps_declaration config, w.wrapsLines_definition config⟩
  · -- and each prototype with its own wrapper
    exact (Wrapper.forall₂_of_ofPrototypes hwrappers).imp
      fun p w hp => ⟨hp, Wrapper.argumentsProvided_of_ofPrototype hp⟩

/-- A core header with a function of the instance, and a command that takes a device.  Its
only region is left open. -/
def mixedHeader : Header where
  name := "vulkan_core.h"
  text :=
    "#define VK_VERSION_1_0 1\n#ifndef VK_NO_PROTOTYPES\n" ++
    "VKAPI_ATTR void VKAPI_CALL vkA(VkInstance i);\n" ++
    "VKAPI_ATTR void VKAPI_CALL vkCmdB(VkCommandBuffer b, VkDevice d);\n"

/-- A free function and a method, with all that a call can pass in place of a parameter. -/
theorem interfaceAgrees_of_mixedHeader :
    let config : Config := { naming := { bootstrapFunction := "vkA" } }
    ∃ g, ofHeaders config [mixedHeader] = .ok g ∧
      g.wrappers.map (fun w => (w.isRecorderMethod, w.name, w.arguments)) =
        [(false, "vkA", ["instance_"]), (true, "B", ["_command_buffer", "device_"])] ∧
      InterfaceAgrees config (wrapped ([mixedHeader].map Header.parse)) g := by
  intro config
  have heval : (ofHeaders config [mixedHeader]).toOption.map (fun g =>
      g.wrappers.map fun w => (w.isRecorderMethod, w.name, w.arguments)) =
        some [(false, "vkA", ["instance_"]), (true, "B", ["_command_buffer", "device_"])] := by
    decide +kernel
  obtain ⟨g, hg, hwrappers⟩ := exists_of_toOption_map heval
  exact ⟨g, hg, hwrappers, interfaceAgrees_of_ofHeaders hg⟩

end Generation

end VulkanGen
