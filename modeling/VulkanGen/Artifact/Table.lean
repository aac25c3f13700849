import VulkanGen.Artifact.Interface
import VulkanGen.FunctionTable

/-!
# The generated function table

The function table is a header and a source.  The header includes the API
headers and declares a structure with one member for each entry; the source
lists the groups, with their first index and their length, and the names of the
entries.  Member `i` of the structure and item `i` of the list of names are the
same function, and a loader relies on that order.

* `memberLine`, `groupLine`, `nameLine`  the line of one entry or group
-/

namespace VulkanGen.Artifact

open Layout (block openBrace closeBrace)

/-- The header that needs Windows types. -/
def win32Header : String := "vulkan_win32.h"

/-- Declarations of the Windows types that `win32Header` uses. -/
def win32Types : String :=
  "// Definitions for WIN32 to avoid including windows.h\n" ++
  "using DWORD = unsigned long;\n" ++
  "using LPCWSTR = const wchar_t*;\n" ++
  "using HANDLE = void*;\n" ++
  "using HINSTANCE = struct HINSTANCE__*; // NOLINT\n" ++
  "using HWND = struct HWND__*; // NOLINT\n" ++
  "using HMONITOR = struct HMONITOR__*; // NOLINT\n" ++
  "using SECURITY_ATTRIBUTES = struct _SECURITY_ATTRIBUTES; // NOLINT\n"

/-- The member of the structure that holds an entry's pointer. -/
def memberLine (name : String) : String :=
  "  PFN_" ++ name ++ " " ++ name ++ " { nullptr };\n"

/-- The item of the list of groups. -/
def groupLine (g : Group) : String :=
  "  " ++ openBrace ++ "\"" ++ g.name ++ "\", " ++ toString g.start ++ ", " ++
    toString g.count ++ closeBrace ++ ",\n"

/-- The item of the list of names. -/
def nameLine (name : String) : String :=
  "  \"" ++ name ++ "\",\n"

/-- What ends a structure or a list. -/
def closing : String := closeBrace ++ ";\n"

/-- The functions that a loader calls, as the header declares them. -/
def loaderDeclarations : String :=
  "///\n" ++
  "/// Finds the index and the count of the function group for the given group name.\n" ++
  "///\n" ++
  "/// @param group_name The name of the function group.\n" ++
  "/// @return The start index and the count of the function group for the given function" ++
  " group name.\n" ++
  "std::pair<FunctionGroupStartIndex, FunctionGroupCount> " ++
  "GetFunctionGroupLoadInfo(const std::string& group_name) noexcept;\n\n" ++
  "///\n" ++
  "/// Return the function name for the given index.\n" ++
  "///\n" ++
  "/// @param index The index of the function name.\n" ++
  "/// @return The function name for the given index or nullptr if the index is out of bounds.\n" ++
  "const char* GetFunctionName(uint32_t index) noexcept;\n\n" ++
  "///\n" ++
  "/// Set the list of extensions to load.\n" ++
  "///\n" ++
  "/// @param extensions The list of extensions to load.\n" ++
  "void SetExtensions(const std::vector<const char*>& extensions);\n\n" ++
  "///\n" ++
  "/// Get the list of extensions to load.\n" ++
  "///\n" ++
  "/// @return The list of extensions to load.\n" ++
  "const std::vector<const char*>& GetExtensions() noexcept;\n\n"

/-- The header up to the structure. -/
def tableHeaderOpening (config : Config) (headerNames : List String) : String :=
  let n := config.naming
  let guard := n.headerGuard n.tableFile
  s!"#ifndef {guard}\n#define {guard}\n\n" ++
  "#define VK_NO_PROTOTYPES\n\n" ++
  whenever (headerNames.contains win32Header) (win32Types ++ "\n") ++
  .join (headerNames.map fun header => s!"#include \"{n.includeDir}/{header}\"\n") ++
  "\n#include <string>\n#include <tuple>\n#include <vector>\n\n" ++
  formatOff ++
  "namespace " ++ n.tableNamespace ++ "\n" ++ openBrace ++ "\n\n" ++
  "struct FunctionTable;\n\n" ++
  "///\n/// Get the global function table.\n///\n" ++
  s!"FunctionTable& {n.tableAccessor}() noexcept;\n\n" ++
  "using FunctionGroupStartIndex = uint32_t;\n" ++
  "using FunctionGroupCount = uint32_t;\n\n" ++
  loaderDeclarations ++
  "struct FunctionTable\n" ++ openBrace ++ "\n"

/-- The header behind the structure. -/
def tableHeaderEnding (n : Naming) : String :=
  "\n" ++ closeBrace ++ " // namespace " ++ n.tableNamespace ++ "\n\n" ++
  formatOn ++
  s!"#endif // {n.headerGuard n.tableFile}\n"

/-- The text of the function table's header. -/
def tableHeader (config : Config) (headerNames : List String) (table : FunctionTable) : String :=
  tableHeaderOpening config headerNames ++
  .join (table.names.map memberLine) ++ closing ++
  tableHeaderEnding config.naming

/-- The source up to the list of groups. -/
def tableSourceOpening (n : Naming) : String :=
  s!"#include \"{n.tableFile}.h\"\n\n" ++
  s!"#include \"{n.logInclude}\"\n\n" ++
  formatOff ++
  "namespace " ++ n.tableNamespace ++ "\n" ++ openBrace ++ "\n\n" ++
  "namespace\n" ++
  block ""
    (s!"static FunctionTable _table; {noLintGlobal}\n" ++
      s!"static std::vector<const char*> _extensions; {noLintGlobal}\n") ++
  " // namespace\n\n" ++
  s!"FunctionTable& {n.tableAccessor}() noexcept\n" ++ block "" "  return _table;\n" ++ "\n\n" ++
  "void SetExtensions(const std::vector<const char*>& extensions)\n" ++
  block "" "  _extensions = extensions;\n" ++ "\n\n" ++
  "const std::vector<const char*>& GetExtensions() noexcept\n" ++
  block "" "  return _extensions;\n" ++ "\n\n" ++
  "namespace\n" ++ openBrace ++ "\n" ++
  "using FunctionName = std::string;\n" ++
  "const std::tuple<FunctionName, FunctionGroupStartIndex, FunctionGroupCount> offset_list[] = " ++
  openBrace ++ " // NOLINT(cert-err58-cpp)\n"

/-- The source between the two lists. -/
def tableSourceBetween : String :=
  "\nconstexpr const char* const function_names[] = " ++ openBrace ++ "\n"

/-- The lookup of a group by its name. -/
def groupLookup : String :=
  "std::pair<FunctionGroupStartIndex, FunctionGroupCount> " ++
  "GetFunctionGroupLoadInfo(const std::string& group_name) noexcept\n" ++
  block ""
    ("  for (const auto& [name, offset, size] : offset_list)\n" ++
      block "  "
        ("    if (group_name == name)\n" ++
          block "    " "      return {offset, size};\n" ++ "\n") ++ "\n" ++
      "  return {0, 0};\n") ++
  "\n\n"

/-- The source between the list of names and the bound of the name lookup. -/
def tableSourceLookup : String :=
  closeBrace ++ " // namespace\n\n" ++
  groupLookup ++
  "const char* GetFunctionName(uint32_t index) noexcept\n" ++
  openBrace ++ "\n" ++
  "  if (index >= "

/-- The source behind the bound of the name lookup. -/
def tableSourceEnding (n : Naming) : String :=
  ")\n" ++
  block "  "
    ("    " ++ n.logErrorMacro ++
        "(\"Invalid function index: {}\", std::to_string(index));\n" ++
      "    return nullptr;\n") ++ "\n" ++
  "  return function_names[index];\n" ++
  closeBrace ++ "\n\n" ++
  formatOn ++
  closeBrace ++ " // namespace " ++ n.tableNamespace ++ "\n"

/-- The text of the function table's source. -/
def tableSource (config : Config) (table : FunctionTable) : String :=
  tableSourceOpening config.naming ++
  .join (table.groups.map groupLine) ++ closing ++
  tableSourceBetween ++
  .join (table.names.map nameLine) ++ closing ++
  tableSourceLookup ++ toString table.length ++ tableSourceEnding config.naming

end VulkanGen.Artifact
