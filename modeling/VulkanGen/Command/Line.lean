import VulkanGen.Command
import VulkanGen.Text.Digits
import VulkanGen.Text.Search

/-!
# Command lines

A command line is a verb with options behind it.  An option is written
`--name value` or `--name=value`; a value that starts with a dash has to be
written the second way.  `--header` may be repeated where a verb takes several
headers, every other option may not.  Switches take no value: `--verbose` may
stand before and behind the verb, once each, and changes no result; `--version`
may only stand before it.  A line is read from left to right, and the first
mistake or the first request for help or for the version decides.

* `CommandLine.parse`  what a command line asks for
* `Word.ofText`        how one argument is written
-/

namespace VulkanGen

/-- What a command line does. -/
inductive Verb where
  | generate
  | inspect
  | groups
  | init
  deriving DecidableEq, Repr

/-- An option that takes a value. -/
inductive CommandOption where
  | header
  | output
  | maxWidth
  | function
  | format
  | config
  deriving DecidableEq, Repr

/-- An option without a value. -/
inductive Switch where
  | verbose
  | help
  | version
  deriving DecidableEq, Repr

/-- Why a command line is not understood. -/
inductive UsageError where
  | missingVerb
  | unexpected (argument : String)
  | missingValue (option : CommandOption)
  | needlessValue (switch : Switch)
  | repeatedOption (option : CommandOption)
  | repeatedSwitch (switch : Switch)
  | invalidNumber (option : CommandOption) (value : String)
  deriving DecidableEq, Repr

/-- What a command line asks for. -/
inductive CommandLine where
  | run (command : Command)
  /-- Shows how to use the program, or one of its verbs. -/
  | help (verb : Option Verb)
  | version
  deriving DecidableEq, Repr

namespace Verb

/-- All verbs. -/
def all : List Verb := [generate, inspect, groups, init]

/-- The name of a verb. -/
def name : Verb → String
  | generate => "generate"
  | inspect => "inspect"
  | groups => "groups"
  | init => "init"

/-- The verb of a name. -/
def ofName? (s : String) : Option Verb :=
  all.find? (·.name == s)

/-- The options of a verb. -/
def options : Verb → List CommandOption
  | generate => [.header, .output, .maxWidth, .config]
  | inspect => [.header, .function, .format, .config]
  | groups => [.header, .format, .config]
  | init => []

/-- Whether an option may be repeated. -/
def repeats (v : Verb) (option : CommandOption) : Bool :=
  option == .header && v != .inspect

/-- A verb is found by its name. -/
theorem ofName?_name (v : Verb) : ofName? v.name = some v := by
  cases v <;> decide

end Verb

/-- The name of an option. -/
def CommandOption.name : CommandOption → String
  | header => "header"
  | output => "output"
  | maxWidth => "max-width"
  | function => "function"
  | format => "format"
  | config => "config"

/-- The option of a name, among those of a verb. -/
def Verb.option? (v : Verb) (s : String) : Option CommandOption :=
  v.options.find? (·.name == s)

namespace Switch

/-- All switches. -/
def all : List Switch := [verbose, help, version]

/-- The name of a switch. -/
def name : Switch → String
  | verbose => "verbose"
  | help => "help"
  | version => "version"

/-- The letter of a switch. -/
def letter : Switch → Char
  | verbose => 'v'
  | help => 'h'
  | version => 'V'

/-- The switches that may stand at a place: behind a verb, or before it. -/
def allowed (verb : Option Verb) : List Switch :=
  all.filter fun s => verb.isNone || s != version

end Switch

/-- One argument of a command line, by the way it is written. -/
inductive Word where
  /-- Two dashes: no option stands behind them. -/
  | separator
  | long (name : String) (value : Option String)
  | short (letters : List Char)
  | plain (text : String)
  deriving DecidableEq, Repr

namespace Word

/-- The name and the value of a long option. -/
def splitValue (cs : List Char) : String × Option String :=
  match cs.dropWhile (· ≠ '=') with
  | [] => (.ofList cs, none)
  | _ :: value => (.ofList (cs.takeWhile (· ≠ '=')), some (.ofList value))

/-- How an argument is written.  A single dash is an ordinary argument. -/
def ofText (s : String) : Word :=
  match s.toList with
  | ['-', '-'] => separator
  | '-' :: '-' :: cs =>
    let (name, value) := splitValue cs
    long name value
  | '-' :: c :: cs => short (c :: cs)
  | _ => plain s

end Word

namespace CommandLine

/-- The largest width that can be asked for. -/
def largestWidth : Nat := 0xFFFFFFFFFFFFFFFF

/-- The width that a text spells: digits, with or without a plus sign. -/
def width? (s : String) : Option Nat :=
  let digits := match s.toList with
    | '+' :: cs => cs
    | cs => cs
  if digits.isEmpty || !digits.all Char.isDigit then none
  else
    let n := Text.decimal digits
    if n ≤ largestWidth then some n else none

/-- The options of a command line and their values, the last one first. -/
abbrev Given := List (CommandOption × String)

/-- The values of an option, in their order. -/
def values (given : Given) (option : CommandOption) : List String :=
  (given.reverse.filter (·.1 == option)).map (·.2)

/-- The value of an option that is not repeated. -/
def value? (given : Given) (option : CommandOption) : Option String :=
  given.lookup option

/-- Adds an option with its value. -/
def accept (verb : Verb) (given : Given) (option : CommandOption) (value : String) :
    Except UsageError Given :=
  if option == .maxWidth && (width? value).isNone then .error (.invalidNumber option value)
  else if (value? given option).isSome && !verb.repeats option then
    .error (.repeatedOption option)
  else .ok ((option, value) :: given)

/-- The command of a verb with options. -/
def command (verb : Verb) (given : Given) : Command :=
  let config := value? given .config
  match verb with
  | .generate =>
    .onProject config (.generate (values given .header) (value? given .output)
      ((value? given .maxWidth).bind width?))
  | .inspect =>
    .onProject config
      (.inspect (value? given .header) (value? given .function) (value? given .format))
  | .groups => .onProject config (.groups (values given .header) (value? given .format))
  | .init => .init

/-- What reading switches comes to: a decision, or whether `--verbose` was among them. -/
abbrev Progress := CommandLine ⊕ Bool

/-- Reads one switch at a place where `--verbose` has or has not been read. -/
def readSwitch (verb : Option Verb) (verbose : Bool) : Switch → Except UsageError Progress
  | .help => .ok (.inl (.help verb))
  | .version => .ok (.inl .version)
  | .verbose => if verbose then .error (.repeatedSwitch .verbose) else .ok (.inr true)

/-- Reads switches that are written as letters behind one dash. -/
def readLetters (verb : Option Verb) (argument : String) (verbose : Bool) :
    List Char → Except UsageError Progress
  | [] => .ok (.inr verbose)
  | c :: cs =>
    match (Switch.allowed verb).find? (·.letter == c) with
    | none => .error (.unexpected argument)
    | some s => do
      match ← readSwitch verb verbose s with
      | .inl decision => return .inl decision
      | .inr verbose => readLetters verb argument verbose cs

/-- Reads a switch that is written as a name. -/
def readName (verb : Option Verb) (argument : String) (verbose : Bool) (name : String)
    (value : Option String) : Except UsageError Progress :=
  match (Switch.allowed verb).find? (·.name == name) with
  | none => .error (.unexpected argument)
  | some s => if value.isSome then .error (.needlessValue s) else readSwitch verb verbose s

/-- Whether an argument can be the value of the option before it. -/
def isValue (argument : String) : Bool :=
  match Word.ofText argument with
  | .plain _ => true
  | _ => false

/-- Reads what stands behind a verb. -/
def readOptions (verb : Verb) (verbose : Bool) (given : Given) :
    List String → Except UsageError CommandLine
  | [] => .ok (.run (command verb given))
  | argument :: rest =>
    match Word.ofText argument with
    | .separator =>
      match rest with
      | [] => .ok (.run (command verb given))
      | extra :: _ => .error (.unexpected extra)
    | .plain _ => .error (.unexpected argument)
    | .short letters => do
      match ← readLetters (some verb) argument verbose letters with
      | .inl decision => return decision
      | .inr verbose => readOptions verb verbose given rest
    | .long name value =>
      match verb.option? name with
      | none => do
        match ← readName (some verb) argument verbose name value with
        | .inl decision => return decision
        | .inr verbose => readOptions verb verbose given rest
      | some option =>
        match value with
        | some value => do readOptions verb verbose (← accept verb given option value) rest
        | none =>
          match rest with
          | [] => .error (.missingValue option)
          | value :: rest =>
            if isValue value then do
              readOptions verb verbose (← accept verb given option value) rest
            else .error (.missingValue option)

/-- Reads a request for help: the verbs behind `help` have to be one verb at most. -/
def readHelp : List String → Except UsageError CommandLine
  | [] => .ok (.help none)
  | argument :: rest =>
    match Verb.ofName? argument, rest with
    | some verb, [] => .ok (.help verb)
    | some _, extra :: _ => .error (.unexpected extra)
    | none, [] => if argument == "help" then .ok (.help none) else .error (.unexpected argument)
    | none, _ :: _ => .error (.unexpected argument)

/-- Reads what stands before a verb, and all that follows. -/
def readVerb (verbose : Bool) : List String → Except UsageError CommandLine
  | [] => .error .missingVerb
  | argument :: rest =>
    match Word.ofText argument with
    | .separator =>
      match rest with
      | [] => .error .missingVerb
      | extra :: _ => .error (.unexpected extra)
    | .plain name =>
      if name == "help" then readHelp rest
      else
        match Verb.ofName? name with
        | some verb => readOptions verb false [] rest
        | none => .error (.unexpected name)
    | .short letters => do
      match ← readLetters none argument verbose letters with
      | .inl decision => return decision
      | .inr verbose => readVerb verbose rest
    | .long name value => do
      match ← readName none argument verbose name value with
      | .inl decision => return decision
      | .inr verbose => readVerb verbose rest

/-- What a command line asks for. -/
def parse (arguments : List String) : Except UsageError CommandLine :=
  readVerb false arguments

example : (parse ["generate", "--header", "a.h", "--max-width=70"]).toOption =
    some (.run (.onProject none (.generate ["a.h"] none (some 70)))) := by decide +kernel
example : (parse ["groups", "--header", "b.h", "--header", "-"]).toOption =
    some (.run (.onProject none (.groups ["b.h", "-"] none))) := by decide +kernel
example : (parse ["-v", "init", "-v"]).toOption = some (.run .init) := by decide +kernel
example : (parse ["-vv", "init"]).toOption = none := by decide +kernel

end CommandLine

end VulkanGen
