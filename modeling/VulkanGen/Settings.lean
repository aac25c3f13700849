import VulkanGen.Config
import VulkanGen.Document

/-!
# Settings

A configuration can be written down as a record of records, with one field for
each setting.  Fields that are missing have their defaults and unknown fields are
ignored; a value of another shape than its field's makes the whole configuration
unreadable.  Inside a configuration a list may not hold more items than its record
has fields.

* `Rules.ofDocument?`, `Naming.ofDocument?`, `Config.ofDocument?`  the readers
-/

namespace VulkanGen

open Document in
/-- Reads a rule set. -/
def Rules.ofDocument? (surplus : Surplus) (doc : Document) : Option Rules := do
  let fs ← doc.fields? surplus
    ["device_binding", "instance_binding", "count_query", "command_buffer"]
  let d : Rules := {}
  return {
    deviceBinding := ← field fs "device_binding" boolean? d.deviceBinding
    instanceBinding := ← field fs "instance_binding" boolean? d.instanceBinding
    countQuery := ← field fs "count_query" boolean? d.countQuery
    commandBuffer := ← field fs "command_buffer" boolean? d.commandBuffer }

/-- The names of the naming settings, in order. -/
def Naming.fieldNames : List String :=
  ["api_file", "table_file", "namespace", "table_namespace", "guard_prefix", "core_include",
    "include_dir", "log_include", "log_error_macro", "table_accessor", "bootstrap_function",
    "global_functions", "command_buffer_lifecycle", "command_prefix", "device_type",
    "instance_type", "command_buffer_type", "count_type", "count_suffix", "device_variable",
    "instance_variable", "device_setter", "instance_setter", "recorder_class", "recorder_field",
    "result_type", "function_pointer_type", "result_with_value_type"]

open Document in
/-- Reads the naming settings. -/
def Naming.ofDocument? (surplus : Surplus) (doc : Document) : Option Naming := do
  let fs ← doc.fields? surplus Naming.fieldNames
  let d : Naming := {}
  return {
    apiFile := ← field fs "api_file" text? d.apiFile
    tableFile := ← field fs "table_file" text? d.tableFile
    apiNamespace := ← field fs "namespace" text? d.apiNamespace
    tableNamespace := ← field fs "table_namespace" text? d.tableNamespace
    guardPrefix := ← field fs "guard_prefix" text? d.guardPrefix
    coreInclude := ← field fs "core_include" text? d.coreInclude
    includeDir := ← field fs "include_dir" text? d.includeDir
    logInclude := ← field fs "log_include" text? d.logInclude
    logErrorMacro := ← field fs "log_error_macro" text? d.logErrorMacro
    tableAccessor := ← field fs "table_accessor" text? d.tableAccessor
    bootstrapFunction := ← field fs "bootstrap_function" text? d.bootstrapFunction
    globalFunctions := ← field fs "global_functions" texts? d.globalFunctions
    commandBufferLifecycle := ← field fs "command_buffer_lifecycle" texts? d.commandBufferLifecycle
    commandPrefix := ← field fs "command_prefix" text? d.commandPrefix
    deviceType := ← field fs "device_type" text? d.deviceType
    instanceType := ← field fs "instance_type" text? d.instanceType
    commandBufferType := ← field fs "command_buffer_type" text? d.commandBufferType
    countType := ← field fs "count_type" text? d.countType
    countSuffix := ← field fs "count_suffix" text? d.countSuffix
    deviceVariable := ← field fs "device_variable" text? d.deviceVariable
    instanceVariable := ← field fs "instance_variable" text? d.instanceVariable
    deviceSetter := ← field fs "device_setter" text? d.deviceSetter
    instanceSetter := ← field fs "instance_setter" text? d.instanceSetter
    recorderClass := ← field fs "recorder_class" text? d.recorderClass
    recorderField := ← field fs "recorder_field" text? d.recorderField
    resultType := ← field fs "result_type" text? d.resultType
    functionPointerType := ← field fs "function_pointer_type" text? d.functionPointerType
    resultWithValueType := ← field fs "result_with_value_type" text? d.resultWithValueType }

open Document in
/-- Reads a configuration. -/
def Config.ofDocument? (doc : Document) : Option Config := do
  let fs ← doc.fields? .refused ["max_width", "naming", "rules"]
  let d : Config := {}
  return {
    maxWidth := ← field fs "max_width" natural? d.maxWidth
    naming := ← field fs "naming" (Naming.ofDocument? .refused) d.naming
    rules := ← field fs "rules" (Rules.ofDocument? .refused) d.rules }

end VulkanGen
