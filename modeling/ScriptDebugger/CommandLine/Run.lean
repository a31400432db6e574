import ScriptDebugger.CommandLine.Plan
import ScriptDebugger.Console.Run

/-!
# The whole program

The command line is read, the log file is made, and what is asked for is found; then the program enters
the working directory of its plan, reads the script from there and talks at the prompt until it quits.
-/

namespace ScriptDebugger

/-! ## Script files -/

/-- Why a script cannot be read. -/
structure ScriptError where
  path : String
  cause : FileError
  deriving DecidableEq, Repr

/-- The wording of a script error, which holds that of its cause. -/
def ScriptError.message (error : ScriptError) : String :=
  "reading script " ++ error.path ++ ": " ++ error.cause.message

/-- The source text of the script at a path, given what reading the file gives. -/
def scriptSource (path : String) (contents : Except ReadError (List UInt8)) :
    Except ScriptError String :=
  match contents with
  | .error error => .error ⟨path, error.cause⟩
  | .ok bytes =>
    match Text.ofUtf8? bytes with
    | none => .error ⟨path, .notText⟩
    | some source => .ok source

/-! ## Starting -/

/-- Why the program ends before its script starts. -/
inductive StartError where
  | logFile (cause : FileError)
  | task (cause : TaskError)
  | directory (path : String) (cause : FileError)
  | script (cause : ScriptError)
  deriving DecidableEq, Repr

/-- The wording of the error, the outermost context first. -/
def StartError.messages : StartError → List String
  | .logFile cause => ["creating log file", cause.message]
  | .task cause => cause.messages
  | .directory path cause => ["changing directory to " ++ path, cause.message]
  | .script error => ["loading program", error.message, error.cause.message]

/-- What the program comes to before it takes input. -/
inductive Start where
  | rejected (error : ArgumentError)
  | failed (error : StartError)
  | listed (names : List String)
  | ready (console : Console)

section

variable {m : Type → Type} [Monad m] (files : FileSystem m)

/-- Enters the working directory of a plan, if it has one. -/
def Plan.enterDirectory (plan : Plan) : m (Except StartError Unit) :=
  match plan.workingDirectory with
  | none => pure (.ok ())
  | some path => do
    match ← files.enter path with
    | .error cause => return .error (.directory path cause)
    | .ok () => return .ok ()

/-- Starts the script of a plan. -/
def Plan.start (plan : Plan) : m (Except StartError Console) := do
  match ← plan.enterDirectory files with
  | .error error => return .error error
  | .ok () =>
    match scriptSource plan.program (← files.read plan.program) with
    | .error error => return .error (.script error)
    | .ok source => return .ok (Console.create source plan.breakpoints plan.stopOnEntry)

/-- Starts what the arguments ask for. -/
def Arguments.start (arguments : Arguments) : m Start := do
  match ← files.create arguments.logPath with
  | .error cause => return .failed (.logFile cause)
  | .ok () =>
    match ← arguments.task files with
    | .error error => return .failed (.task error)
    | .ok (.listNames names) => return .listed names
    | .ok (.run plan) =>
      match ← plan.start files with
      | .error error => return .failed error
      | .ok console => return .ready console

/-- Starts the program. -/
def start (arguments : List String) : m Start :=
  match Arguments.parse arguments with
  | .error error => pure (.rejected error)
  | .ok arguments => arguments.start files

end

/-! ## Input and output -/

/-- The lines of bytes, each without its end. -/
def byteLines : List UInt8 → List (List UInt8)
  | [] => []
  | byte :: rest =>
    if byte = 10 then [] :: byteLines rest
    else
      match byteLines rest with
      | [] => [[byte]]
      | first :: others => (byte :: first) :: others

/-- The lines typed as bytes. A line that is no text ends the input. -/
def typedLines (bytes : List UInt8) : List (Option String) :=
  let lines := (byteLines bytes).map Text.ofUtf8?
  lines.takeWhile Option.isSome ++ (lines.dropWhile Option.isSome).take 1

/-- What the program prints and how it ends. -/
structure Outcome where
  exitCode : UInt32
  printed : String := ""
  /-- The error that it ends with and its causes, the outermost first. -/
  errors : List String := []
  deriving DecidableEq, Repr

/-- Lines with their ends. -/
def printLines (lines : List String) : String :=
  lines.foldl (fun printed line => printed ++ line ++ "\n") ""

/-- What the console prints for lines of input: at the start, for each line until it quits, and of the
output that is left. -/
def Console.transcript (console : Console) (input : List (Option String)) : String :=
  let opening := console.showReady
  let conversation :=
    if opening.quits then ([], opening.console, true)
    else opening.console.converse (input.map Source.input)
  match conversation with
  | (later, console, quits) =>
    let ended := if quits then console.finish else console
    String.join (opening.texts ++ later.flatten) ++ printLines (ended.unshown.map outputLine)

/-- What the program comes to, with lines of input. -/
def Start.outcome (input : List (Option String)) : Start → Outcome
  | .rejected .helpRequested => { exitCode := 0, printed := usage ++ "\n" }
  | .rejected error => { exitCode := 2, errors := [error.message] }
  | .failed error => { exitCode := 1, errors := error.messages }
  | .listed names => { exitCode := 0, printed := printLines (nameLines names) }
  | .ready console => { exitCode := 0, printed := console.transcript input }

end ScriptDebugger
