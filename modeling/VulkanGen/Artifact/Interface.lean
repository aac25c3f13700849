import VulkanGen.Wrapper.Code

/-!
# The generated interface

The interface is a header and a source.  The header declares the result types,
the setters of the bound handles, the free functions and the recorder class; the
source defines them.  Both list the free functions first and the recorder
methods last, each in the order of the declarations, and both leave out the parts
whose rule is disabled.

* `mem_freeFunctions_iff`, `mem_recorderMethods_iff`  how a list of wrappers is split
* `perm_freeFunctions_recorderMethods`              nothing is lost by it
-/

namespace VulkanGen.Artifact

open Layout (block)

/-- The wrappers that are free functions, in order. -/
def freeFunctions (ws : List Wrapper) : List Wrapper :=
  ws.filter fun w => !w.isRecorderMethod

/-- The wrappers that are methods of the recorder class, in order. -/
def recorderMethods (ws : List Wrapper) : List Wrapper :=
  ws.filter Wrapper.isRecorderMethod

theorem mem_freeFunctions_iff {ws : List Wrapper} {w : Wrapper} :
    w ∈ freeFunctions ws ↔ w ∈ ws ∧ w.form ≠ .recorderMethod := by
  simp [freeFunctions, Wrapper.isRecorderMethod]

theorem mem_recorderMethods_iff {ws : List Wrapper} {w : Wrapper} :
    w ∈ recorderMethods ws ↔ w ∈ ws ∧ w.form = .recorderMethod := by
  simp [recorderMethods, Wrapper.isRecorderMethod]

/-- Each wrapper is a free function or a method. -/
theorem perm_freeFunctions_recorderMethods (ws : List Wrapper) :
    (freeFunctions ws ++ recorderMethods ws).Perm ws := by
  have hsplit := List.filter_append_perm Wrapper.isRecorderMethod ws
  exact List.perm_append_comm.trans hsplit

/-- A text where a rule is enabled, and nothing elsewhere. -/
def whenever (enabled : Bool) (text : String) : String :=
  if enabled then text else ""

/-- What keeps a formatter away from generated code. -/
def formatOff : String := "// clang-format off\n\n"

/-- Where a formatter may work again. -/
def formatOn : String := "// clang-format on\n\n"

/-- What a linter is told about the global variables. -/
def noLintGlobal : String := "// NOLINT(cppcoreguidelines-avoid-non-const-global-variables)"

/-- The conversion to `bool` of a result type. -/
def boolConversion (condition : String) : String :=
  "  operator bool() const\n" ++ block "  " ("    return " ++ condition ++ ";\n") ++ "\n"

/-- A structure with its members. -/
def structType (name members : String) : String :=
  "struct " ++ name ++ "\n" ++ block "" members ++ ";\n\n"

/-- The types that wrappers return. -/
def resultTypes (n : Naming) : String :=
  "template<typename T>\n" ++
  structType n.resultWithValueType
    ("  VkResult result { VK_SUCCESS };\n" ++
      "  T value {};\n\n" ++
      "  " ++ n.resultWithValueType ++ "(T&& value = {}) : value(std::move(value)) {}\n\n" ++
      boolConversion "result == VK_SUCCESS") ++
  structType n.resultType
    ("  VkResult result;\n\n" ++
      "  " ++ n.resultType ++ "(VkResult result) : result(result) {}\n\n" ++
      boolConversion "result == VK_SUCCESS") ++
  structType n.functionPointerType
    ("  void (*callback)() {};\n\n" ++
      "  " ++ n.functionPointerType ++ "(void (*callback)()) : callback(callback) {}\n\n" ++
      boolConversion "callback != nullptr")

/-- The declaration of a handle's setter. -/
def setterDeclaration (setter type parameter : String) : String :=
  s!"void {setter}({type} {parameter});\n\n"

/-- The recorder class with its methods. -/
def recorderClass (n : Naming) (methods : String) : String :=
  "class " ++ n.recorderClass ++ "\n" ++
  block ""
    ("private:\n" ++
      "  " ++ n.commandBufferType ++ " " ++ n.recorderField ++ " { VK_NULL_HANDLE };\n\n" ++
      "public:\n" ++
      s!"  {n.recorderClass}({n.commandBufferType} command_buffer);\n\n" ++
      methods) ++
  ";\n\n"

/-- What stands in a namespace, away from its braces. -/
def inNamespace (name lines : String) : String :=
  "namespace " ++ name ++ "\n" ++ block "" ("\n" ++ lines) ++ " // namespace " ++ name ++ "\n"

/-- The text of the generated header. -/
def declarations (config : Config) (ws : List Wrapper) : String :=
  let n := config.naming
  let guard := n.headerGuard n.apiFile
  s!"#ifndef {guard}\n#define {guard}\n\n" ++
  s!"#include <{n.coreInclude}>\n\n" ++
  "#include <vector>\n\n" ++
  inNamespace n.apiNamespace
    (formatOff ++
      resultTypes n ++
      whenever config.rules.deviceBinding
        (setterDeclaration n.deviceSetter n.deviceType "device") ++
      whenever config.rules.instanceBinding
        (setterDeclaration n.instanceSetter n.instanceType "instance") ++
      .join ((freeFunctions ws).map fun w => w.declaration config ++ "\n\n") ++
      whenever config.rules.commandBuffer
        (recorderClass n
          (.join ((recorderMethods ws).map fun w => w.declaration config ++ "\n\n"))) ++
      formatOn) ++
  "\n" ++
  s!"#endif // {guard}\n"

/-- The variable of a bound handle. -/
def handleVariable (type name : String) : String :=
  s!"static {type} {name} = VK_NULL_HANDLE; {noLintGlobal}\n"

/-- The definition of a handle's setter. -/
def setterDefinition (setter type parameter name : String) : String :=
  s!"void {setter}({type} {parameter})\n" ++ block "" s!"  {name} = {parameter};\n" ++ "\n\n"

/-- The definition of the recorder class's constructor. -/
def recorderConstructor (n : Naming) : String :=
  s!"{n.recorderClass}::{n.recorderClass}({n.commandBufferType} command_buffer) : " ++
  n.recorderField ++ "(command_buffer) {}\n\n"

/-- The text of the generated source. -/
def implementations (config : Config) (ws : List Wrapper) : String :=
  let n := config.naming
  let rules := config.rules
  s!"#include \"{n.apiFile}.h\"\n\n" ++
  s!"#include \"{n.tableFile}.h\"\n\n" ++
  inNamespace n.apiNamespace
    (s!"using namespace {n.tableNamespace};\n\n" ++
      formatOff ++
      whenever (rules.deviceBinding || rules.instanceBinding)
        ("namespace\n" ++
          block ""
            (whenever rules.deviceBinding (handleVariable n.deviceType n.deviceVariable) ++
              whenever rules.instanceBinding
                (handleVariable n.instanceType n.instanceVariable)) ++
          " // namespace\n\n") ++
      whenever rules.deviceBinding
        (setterDefinition n.deviceSetter n.deviceType "device" n.deviceVariable) ++
      whenever rules.instanceBinding
        (setterDefinition n.instanceSetter n.instanceType "instance" n.instanceVariable) ++
      .join ((freeFunctions ws).map fun w => w.definition config ++ "\n") ++
      whenever rules.commandBuffer
        (recorderConstructor n ++
          .join ((recorderMethods ws).map fun w => w.definition config ++ "\n")) ++
      formatOn)

end VulkanGen.Artifact
