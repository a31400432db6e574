import ScriptDebugger.Host.Path
import ScriptDebugger.Jsonc.Value
import ScriptDebugger.Text.Integer

/-!
# Launch configurations

A configuration says which script to run, where to stop in it and from which directory. It is read from
an object of a configuration file.
-/

namespace ScriptDebugger

/-- A launch configuration. -/
structure Configuration where
  name : String
  request : String
  program : String
  breakpoints : List Nat := []
  stopOnEntry : Bool := false
  workingDirectory : Option String := none
  deriving DecidableEq, Repr

namespace Configuration

/-- A line number from a value. -/
def line? : Jsonc.Value → Option Nat
  | .integer (.ofNat line) => if line ≤ Text.greatestCount then some line else none
  | _ => none

/-- Line numbers from a member that may be missing. -/
def lines? : Option Jsonc.Value → Option (List Nat)
  | none => some []
  | some (.array elements) => elements.mapM line?
  | some _ => none

/-- A switch from a member that may be missing. -/
def switch? : Option Jsonc.Value → Option Bool
  | none => some false
  | some (.bool value) => some value
  | some _ => none

/-- A text from a member that may be missing or null. -/
def optionalText? : Option Jsonc.Value → Option (Option String)
  | none => some none
  | some .null => some none
  | some (.text content) => some (some content)
  | some _ => none

/-- The configuration that a value describes; members with other names are ignored. -/
def ofValue? (value : Jsonc.Value) : Option Configuration := do
  let name ← (← value.member? "name").text?
  let request ← (← value.member? "request").text?
  let program ← (← value.member? "program").text?
  let breakpoints ← lines? (value.member? "breakpoints")
  let stopOnEntry ← switch? (value.member? "stopOnEntry")
  let workingDirectory ← optionalText? (value.member? "cwd")
  return { name, request, program, breakpoints, stopOnEntry, workingDirectory }

/-! ## Paths -/

/-- The text that stands for the directory of the configuration file at the start of a path. -/
def workspaceFolder : String :=
  "$\x7bworkspaceFolder\x7d"

/-- A path of a configuration without the text that stands for the directory of its file. -/
def withoutFolder (path : String) : String :=
  if workspaceFolder.toList.isPrefixOf path.toList then
    String.ofList
      ((path.toList.drop workspaceFolder.length).dropWhile fun c => c == '/' || c == '\\')
  else path

/-- A path of a configuration, taken from a directory. -/
def resolvePath (root path : String) : String :=
  Path.join root (withoutFolder path)

/-- The configuration with its paths taken from a directory. -/
def resolve (configuration : Configuration) (root : String) : Configuration :=
  { configuration with
    program := resolvePath root configuration.program
    workingDirectory := configuration.workingDirectory.map (resolvePath root) }

end Configuration

end ScriptDebugger
