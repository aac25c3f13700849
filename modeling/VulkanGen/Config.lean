import VulkanGen.Text.Search
import VulkanGen.Text.Upper

/-!
# Configuration

A configuration says how wide a line may be, what the generated files, types and
variables are called, and which rules shape the wrappers.  Everything has a default.

* `Rules.all`, `Rules.none`        the two extreme rule sets
* `Rules.enables`, `Rules.disable`  one rule of a rule set
-/

namespace VulkanGen

/-- A rule that shapes wrappers. -/
inductive Rule where
  | deviceBinding
  | instanceBinding
  | countQuery
  | commandBuffer
  deriving DecidableEq, Repr

/-- How a rule is called where its effect is shown. -/
def Rule.label : Rule → String
  | deviceBinding => "device_bound"
  | instanceBinding => "instance_bound"
  | countQuery => "count_query"
  | commandBuffer => "command_buffer"

/-- Which rules run.  Return types are normalized always. -/
structure Rules where
  deviceBinding : Bool := true
  instanceBinding : Bool := true
  countQuery : Bool := true
  commandBuffer : Bool := true
  deriving DecidableEq, Repr

namespace Rules

/-- All rules. -/
def all : Rules := {}

/-- No rules: plain forwarding wrappers only. -/
def none : Rules := ⟨false, false, false, false⟩

/-- Whether a rule runs. -/
def enables (rules : Rules) : Rule → Bool
  | .deviceBinding => rules.deviceBinding
  | .instanceBinding => rules.instanceBinding
  | .countQuery => rules.countQuery
  | .commandBuffer => rules.commandBuffer

/-- The rules without one of them. -/
def disable (rules : Rules) : Rule → Rules
  | .deviceBinding => { rules with deviceBinding := false }
  | .instanceBinding => { rules with instanceBinding := false }
  | .countQuery => { rules with countQuery := false }
  | .commandBuffer => { rules with commandBuffer := false }

/-- Disabling a rule leaves the others as they are. -/
theorem enables_disable (rules : Rules) (r s : Rule) :
    (rules.disable r).enables s = (rules.enables s && r != s) := by
  cases r <;> cases s <;> simp [enables, disable]

end Rules

/-- The names of generated files, namespaces, types and variables, and the names
in a header that the rules look for. -/
structure Naming where
  /-- File stem of the declarations and the implementations. -/
  apiFile : String := "vulkan_api"
  /-- File stem of the function table's header and source. -/
  tableFile : String := "vulkan_function_table"
  apiNamespace : String := "plex::graphics::vkapi"
  tableNamespace : String := "plex::graphics::vkapi::loader"
  guardPrefix : String := "PLEX_GRAPHICS_"
  /-- Include path of the core header. -/
  coreInclude : String := "vulkan/vulkan_core.h"
  /-- Directory of the headers that the function table includes. -/
  includeDir : String := "vulkan"
  /-- Logging header and macro of the function table's source. -/
  logInclude : String := "plex/debug/logging.h"
  logErrorMacro : String := "LOG_ERROR"
  /-- Accessor of the process-wide function table. -/
  tableAccessor : String := "GetFunctionTable"
  /-- The entry point that resolves all others. -/
  bootstrapFunction : String := "vkGetInstanceProcAddr"
  /-- Functions that can be called before an instance exists. -/
  globalFunctions : List String :=
    ["vkEnumerateInstanceVersion", "vkEnumerateInstanceExtensionProperties",
      "vkEnumerateInstanceLayerProperties", "vkCreateInstance"]
  /-- Command-buffer functions that are not recorded commands. -/
  commandBufferLifecycle : List String :=
    ["vkBeginCommandBuffer", "vkEndCommandBuffer", "vkResetCommandBuffer"]
  /-- What the name of a recorded command holds. -/
  commandPrefix : String := "vkCmd"
  deviceType : String := "VkDevice"
  instanceType : String := "VkInstance"
  commandBufferType : String := "VkCommandBuffer"
  /-- Type of the element count of a count query. -/
  countType : String := "uint32_t*"
  /-- What the name of the element count ends in. -/
  countSuffix : String := "Count"
  deviceVariable : String := "device_"
  instanceVariable : String := "instance_"
  deviceSetter : String := "InitVulkanApi"
  instanceSetter : String := "InitVulkanInstanceApi"
  recorderClass : String := "VulkanCommandRecorder"
  recorderField : String := "_command_buffer"
  resultType : String := "VulkanResult"
  functionPointerType : String := "VulkanFunctionPointer"
  resultWithValueType : String := "VulkanResultWithValue"
  deriving DecidableEq, Repr

namespace Naming

/-- The include guard of a generated header. -/
def headerGuard (n : Naming) (stem : String) : String :=
  n.guardPrefix ++ Text.upper stem ++ "_H"

/-- Whether a function can be called before an instance exists. -/
def isGlobal (n : Naming) (name : String) : Bool :=
  n.globalFunctions.contains name

/-- Whether a function begins, ends or resets a command buffer. -/
def isLifecycle (n : Naming) (name : String) : Bool :=
  n.commandBufferLifecycle.contains name

end Naming

/-- Everything that the rules and the writers of the artifacts need to know. -/
structure Config where
  /-- Parameter lists of longer lines are wrapped; with 0 none is. -/
  maxWidth : Nat := 120
  naming : Naming := {}
  rules : Rules := {}
  deriving DecidableEq, Repr

end VulkanGen
