import VulkanGen.Command.Line

/-!
# Usage texts

How to use the program is said by a table of verbs and options, and a command
line that is not understood is answered with its first mistake and a short
reminder of the usage.

* `Usage.text`          the help for the program or for one verb
* `UsageError.message`  the answer to a mistake
-/

namespace VulkanGen

namespace Usage

/-- What the program is called. -/
def program : String := "vkwrap"

/-- The version of the program. -/
def version : String := "0.1.0"

/-- What a verb does. -/
def aboutVerb : Verb → String
  | .generate => "Generate the wrapper and function table sources"
  | .inspect => "Show how each declaration of a header is classified"
  | .groups => "Print the function table group/offset layout"
  | .init => s!"Write a starter {Manifest.fileName} in the current directory"

/-- What an option does for a verb. -/
def aboutOption (verb : Verb) : CommandOption → String
  | .header =>
    if verb.repeats .header then
      "Header to read; repeat for extension headers (core header first)"
    else "Header to read (default: first manifest header)"
  | .output => "Output directory"
  | .maxWidth => "Wrap parameter lists of lines longer than this (0 disables wrapping)"
  | .function => "Only show this function"
  | .format => "Output format: text (default) or json"
  | .config => s!"Manifest to use instead of the discovered {Manifest.fileName}"

/-- What a switch does. -/
def aboutSwitch : Switch → String
  | .verbose => "Enable debug logging"
  | .help => "Print help"
  | .version => "Print version"

/-- How the value of an option is called. -/
def valueName (verb : Verb) : CommandOption → String
  | .header => if verb.repeats .header then "HEADERS" else "HEADER"
  | .output => "OUTPUT"
  | .maxWidth => "MAX_WIDTH"
  | .function => "FUNCTION"
  | .format => "FORMAT"
  | .config => "CONFIG"

/-- Rows of two columns, the second one aligned. -/
def columns (rows : List (String × String)) : String :=
  let width := (rows.map (·.1.length)).foldl max 0
  String.join (rows.map fun (left, right) =>
    "  " ++ left ++ .ofList (List.replicate (width + 2 - left.length) ' ') ++ right ++ "\n")

/-- The row of a switch. -/
def switchRow (s : Switch) : String × String :=
  (s!"-{s.letter}, --{s.name}", aboutSwitch s)

/-- The row of an option. -/
def optionRow (verb : Verb) (option : CommandOption) : String × String :=
  (s!"    --{option.name} <{valueName verb option}>", aboutOption verb option)

/-- The line that sums up the usage. -/
def line : Option Verb → String
  | none => s!"Usage: {program} [OPTIONS] <COMMAND>\n"
  | some verb => s!"Usage: {program} {verb.name} [OPTIONS]\n"

/-- The help for the program. -/
def programText : String :=
  "C++ Vulkan wrapper generator\n\n" ++ line none ++
  "\nCommands:\n" ++
  columns (Verb.all.map (fun v => (v.name, aboutVerb v)) ++
    [("help", "Print this message or the help of the given subcommand(s)")]) ++
  "\nOptions:\n" ++
  columns (Switch.all.map switchRow)

/-- The help for a verb; the first option stands before the switches. -/
def verbText (verb : Verb) : String :=
  let options := verb.options.map (optionRow verb)
  aboutVerb verb ++ "\n\n" ++ line (some verb) ++
  "\nOptions:\n" ++
  columns (options.take 1 ++ [switchRow .verbose] ++ options.drop 1 ++ [switchRow .help])

/-- The help for the program or for one verb. -/
def text : Option Verb → String
  | none => programText
  | some verb => verbText verb

end Usage

/-- What a mistake is. -/
def UsageError.describe : UsageError → String
  | missingVerb => "a subcommand is required but one was not provided"
  | unexpected argument => s!"unexpected argument '{argument}' found"
  | missingValue option => s!"a value is required for '--{option.name}' but none was supplied"
  | needlessValue switch => s!"unexpected value for '--{switch.name}' found; no more were expected"
  | repeatedOption option => s!"the argument '--{option.name}' cannot be used multiple times"
  | repeatedSwitch switch => s!"the argument '--{switch.name}' cannot be used multiple times"
  | invalidNumber option value => s!"invalid value '{value}' for '--{option.name}'"

/-- The answer to a mistake. -/
def UsageError.message (e : UsageError) : String :=
  s!"error: {e.describe}\n\n" ++ Usage.line none ++ "\nFor more information, try '--help'.\n"

end VulkanGen
