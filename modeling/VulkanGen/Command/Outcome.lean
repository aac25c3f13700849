import VulkanGen.Command.Usage

/-!
# Outcomes

A run of the program ends with an exit code and with what it wrote to its two
outputs.  The code is 0 where the command did its work, 1 where it failed, and 2
where the command line was not understood.

* `CommandLine.execute`  runs a command line in a working directory
* `exitCode_ofResult`    a command fails exactly if its exit code is not 0
-/

namespace VulkanGen

/-- How a run ends. -/
structure Outcome where
  exitCode : UInt32
  standardOutput : String
  standardError : String
  deriving DecidableEq, Repr

namespace Outcome

/-- The outcome of a run that shows a text. -/
def success (text : String) : Outcome :=
  ⟨0, text, ""⟩

/-- The outcome of a command. -/
def ofResult : Except Failure String → Outcome
  | .ok text => success text
  | .error failure => ⟨1, "", failure.message⟩

/-- The outcome of a command line that is not understood. -/
def ofUsageError (e : UsageError) : Outcome :=
  ⟨2, "", e.message⟩

/-- A command fails exactly if its exit code is not 0. -/
theorem exitCode_ofResult (r : Except Failure String) :
    (ofResult r).exitCode = if r.isOk then 0 else 1 := by
  cases r <;> rfl

end Outcome

/-- Runs a command line in a working directory. -/
def CommandLine.execute {m : Type → Type} [Monad m] [Host m] (workingDirectory : Path)
    (arguments : List String) : m Outcome := do
  match parse arguments with
  | .error e => return .ofUsageError e
  | .ok (.help verb) => return .success (Usage.text verb)
  | .ok .version => return .success s!"{Usage.program} {Usage.version}\n"
  | .ok (.run command) => return .ofResult (← command.run workingDirectory)

end VulkanGen
