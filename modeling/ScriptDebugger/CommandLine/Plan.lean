import ScriptDebugger.CommandLine.Arguments
import ScriptDebugger.Host.FileSystem
import ScriptDebugger.Launch.Choice

/-!
# What the command line asks for

The script and its settings come from the arguments alone, or from a launch configuration to which the
arguments add. A configuration file without a name asks for the names in it.
-/

namespace ScriptDebugger

/-- What is to be run. -/
structure Plan where
  program : String
  breakpoints : List Nat
  stopOnEntry : Bool
  workingDirectory : Option String
  deriving DecidableEq, Repr

/-- What the command line asks for. -/
inductive Task where
  | run (plan : Plan)
  | listNames (names : List String)
  deriving DecidableEq, Repr

/-- Why the command line asks for nothing that can be done. -/
inductive TaskError where
  | nothingToRun
  | configuration (cause : Launch.FileLoadError)
  | noMatch
  deriving DecidableEq, Repr

/-- The wording of the error, the outermost context first. -/
def TaskError.messages : TaskError → List String
  | .nothingToRun => ["either a program or --config is required"]
  | .configuration cause => "loading launch configuration" :: cause.messages
  | .noMatch => ["no matching launch configuration found"]

/-- The lines that list the names of configurations. -/
def nameLines (names : List String) : List String :=
  "choose a configuration with --name:" :: names.map fun name => "  " ++ name

namespace Arguments

/-- What the arguments ask for without a configuration file. -/
def taskAlone (arguments : Arguments) : Except TaskError Task :=
  match arguments.program with
  | none => .error .nothingToRun
  | some program =>
    .ok (.run {
      program := program
      breakpoints := arguments.breakpoints
      stopOnEntry := arguments.stopOnEntry
      workingDirectory := none })

/-- What the arguments ask for with the choice from a configuration file. -/
def taskWith (arguments : Arguments) : Launch.Choice → Except TaskError Task
  | .specific configuration =>
    .ok (.run {
      program := configuration.program
      breakpoints := configuration.breakpoints ++ arguments.breakpoints
      stopOnEntry := configuration.stopOnEntry || arguments.stopOnEntry
      workingDirectory := configuration.workingDirectory })
  | .notFound => .error .noMatch
  | .toBeChosen names => .ok (.listNames names)

/-- What the arguments ask for, given what a configuration file at a path holds. -/
def taskFrom (arguments : Arguments) (path : String)
    (contents : Except ReadError (List UInt8)) : Except TaskError Task :=
  match Launch.ofFile arguments.name path contents with
  | .error cause => .error (.configuration cause)
  | .ok choice => arguments.taskWith choice

/-- What the arguments ask for. -/
def task {m : Type → Type} [Monad m] (files : FileSystem m) (arguments : Arguments) :
    m (Except TaskError Task) :=
  match arguments.configuration with
  | none => pure arguments.taskAlone
  | some path => do
    let contents ← files.read path
    return arguments.taskFrom path contents

end Arguments

end ScriptDebugger
