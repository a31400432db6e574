import ScriptDebugger.Text.Integer

/-!
# Arguments of the command line

An option takes its value from its own argument (`--config=file`, `-cfile`, `-c=file`) or from the next
one. A value from the next argument, and the script, are checked only when the next known option comes
or the arguments end, so an unknown argument after them is what is reported.
-/

namespace ScriptDebugger

/-- What the command line says. -/
structure Arguments where
  program : Option String := none
  configuration : Option String := none
  name : Option String := none
  breakpoints : List Nat := []
  stopOnEntry : Bool := false
  logFile : Option String := none
  deriving DecidableEq, Repr

/-- The file that the log goes to. -/
def Arguments.logPath (arguments : Arguments) : String :=
  arguments.logFile.getD "textdbg.log"

/-- What takes a value on the command line. -/
inductive Parameter where
  | program
  | configuration
  | name
  | breakpoint
  | logFile
  deriving DecidableEq, Repr

/-- An option of the command line. -/
inductive Switch where
  | valued (parameter : Parameter)
  | stopOnEntry
  | help
  deriving DecidableEq, Repr

/-- Why the command line is not accepted. -/
inductive ArgumentError where
  | unknown (argument : String)
  | missingValue (parameter : Parameter)
  | emptyValue (parameter : Parameter)
  | invalidLine (value : String) (cause : Text.IntegerError)
  | unneededValue (value : String)
  | repeated (switch : Switch)
  /-- A script and a configuration file are given. -/
  | conflict
  /-- A name is given, and no configuration file. -/
  | missingConfiguration
  | helpRequested
  deriving DecidableEq, Repr

/-! ## Wording -/

/-- How an option or the script is spoken of. -/
def Parameter.label : Parameter → String
  | .program => "[PROGRAM]"
  | .configuration => "--config <CONFIG>"
  | .name => "--name <NAME>"
  | .breakpoint => "--breakpoint <BREAKPOINT>"
  | .logFile => "--log-file <LOG_FILE>"

/-- How an option is spoken of. -/
def Switch.label : Switch → String
  | .valued parameter => parameter.label
  | .stopOnEntry => "--stop-on-entry"
  | .help => "--help"

/-- The help on the command line. -/
def usage : String :=
  "Usage: textdbg [OPTIONS] [PROGRAM]\n\n" ++
  "Arguments:\n" ++
  "  [PROGRAM]  Script to run\n\n" ++
  "Options:\n" ++
  "  -c, --config <CONFIG>          Launch configuration file (launch.json or .code-workspace)\n" ++
  "  -n, --name <NAME>              Name of the launch configuration to use\n" ++
  "  -b, --breakpoint <BREAKPOINT>  Line to break on, may be repeated\n" ++
  "      --stop-on-entry            Suspend before the first line runs\n" ++
  "      --log-file <LOG_FILE>      [default: textdbg.log]\n" ++
  "  -h, --help                     Print help"

/-- The wording of an argument error. -/
def ArgumentError.message : ArgumentError → String
  | .unknown argument => "unexpected argument '" ++ argument ++ "' found"
  | .missingValue parameter =>
    "a value is required for '" ++ parameter.label ++ "' but none was supplied"
  | .emptyValue parameter =>
    "a value is required for '" ++ parameter.label ++ "' but none was supplied"
  | .invalidLine value cause =>
    "invalid value '" ++ value ++ "' for '" ++ Parameter.breakpoint.label ++ "': " ++ cause.message
  | .unneededValue value => "unexpected value '" ++ value ++ "' found; no more were expected"
  | .repeated switch => "the argument '" ++ switch.label ++ "' cannot be used multiple times"
  | .conflict =>
    "the argument '" ++ Parameter.configuration.label ++ "' cannot be used with '" ++
      Parameter.program.label ++ "'"
  | .missingConfiguration =>
    "the following required arguments were not provided: " ++ Parameter.configuration.label
  | .helpRequested => usage

namespace Arguments

/-! ## Options -/

/-- The option of a long name. -/
def longSwitch? (name : List Char) : Option Switch :=
  if name = "config".toList then some (.valued .configuration)
  else if name = "name".toList then some (.valued .name)
  else if name = "breakpoint".toList then some (.valued .breakpoint)
  else if name = "log-file".toList then some (.valued .logFile)
  else if name = "stop-on-entry".toList then some .stopOnEntry
  else if name = "help".toList then some .help
  else none

/-- The option of a letter. -/
def shortSwitch? : Char → Option Switch
  | 'c' => some (.valued .configuration)
  | 'n' => some (.valued .name)
  | 'b' => some (.valued .breakpoint)
  | 'h' => some .help
  | _ => none

/-- The forms of an argument. -/
inductive Form where
  /-- After this all arguments stand for themselves. -/
  | divider
  | long (name : List Char) (value : Option (List Char))
  | short (letter : Char) (rest : List Char)
  | plain
  deriving DecidableEq, Repr

/-- The form of an argument. A hyphen alone stands for itself. -/
def form : List Char → Form
  | ['-', '-'] => .divider
  | '-' :: '-' :: rest =>
    match rest.dropWhile (· != '=') with
    | [] => .long rest none
    | _ :: value => .long (rest.takeWhile (· != '=')) (some value)
  | '-' :: letter :: rest => .short letter rest
  | _ => .plain

/-- The value that follows the letter of an option in its argument. -/
def attached? : List Char → Option (List Char)
  | [] => none
  | '=' :: value => some value
  | value => some value

/-! ## Values -/

/-- Stores a path, which must not be empty, for a parameter that has none yet. -/
def storePath (parameter : Parameter) (stored : Option String) (value : String) :
    Except ArgumentError (Option String) :=
  if stored.isSome then .error (.repeated (.valued parameter))
  else if value = "" then .error (.emptyValue parameter)
  else .ok (some value)

/-- Stores the value of a parameter. -/
def store (arguments : Arguments) (parameter : Parameter) (value : String) :
    Except ArgumentError Arguments :=
  match parameter with
  | .program =>
    (storePath parameter arguments.program value).map fun path => { arguments with program := path }
  | .configuration =>
    (storePath parameter arguments.configuration value).map fun path =>
      { arguments with configuration := path }
  | .name =>
    if arguments.name.isSome then .error (.repeated (.valued .name))
    else .ok { arguments with name := some value }
  | .breakpoint =>
    match Text.readCount value with
    | .error cause => .error (.invalidLine value cause)
    | .ok line => .ok { arguments with breakpoints := arguments.breakpoints ++ [line] }
  | .logFile =>
    (storePath parameter arguments.logFile value).map fun path => { arguments with logFile := path }

/-! ## Reading -/

/-- How far the arguments are read. -/
structure Reading where
  arguments : Arguments := {}
  /-- A parameter whose value, if it has one yet, is still to be stored. -/
  pending : Option (Parameter × Option String) := none
  /-- Whether the script is given, stored or pending. -/
  hasProgram : Bool := false
  /-- Whether all further arguments stand for themselves. -/
  divided : Bool := false
  deriving DecidableEq, Repr

namespace Reading

/-- Stores what is pending. -/
def resolve (reading : Reading) : Except ArgumentError Reading :=
  match reading.pending with
  | none => .ok reading
  | some (parameter, none) => .error (.missingValue parameter)
  | some (parameter, some value) =>
    (reading.arguments.store parameter value).map fun arguments =>
      { reading with arguments := arguments, pending := none }

/-- The parameter that takes the next argument as its value. -/
def awaiting? (reading : Reading) : Option Parameter :=
  match reading.pending with
  | some (parameter, none) => some parameter
  | _ => none

/-- Reads an argument that is no option: a value that is awaited, or the script. -/
def plain (reading : Reading) (argument : String) : Except ArgumentError Reading :=
  if reading.hasProgram then .error (.unknown argument)
  else
    reading.resolve.map fun resolved =>
      { resolved with pending := some (.program, some argument), hasProgram := true }

/-- Reads an option with the value that its argument holds. -/
def switch (reading : Reading) (switch : Switch) (value : Option (List Char)) :
    Except ArgumentError Reading :=
  match switch, value with
  | .valued parameter, none =>
    reading.resolve.map fun resolved => { resolved with pending := some (parameter, none) }
  | .valued parameter, some value =>
    match reading.resolve with
    | .error error => .error error
    | .ok resolved =>
      (resolved.arguments.store parameter (String.ofList value)).map fun arguments =>
        { resolved with arguments := arguments }
  | _, some value => .error (.unneededValue (String.ofList value))
  | .stopOnEntry, none =>
    match reading.resolve with
    | .error error => .error error
    | .ok resolved =>
      if resolved.arguments.stopOnEntry then .error (.repeated .stopOnEntry)
      else .ok { resolved with arguments := { resolved.arguments with stopOnEntry := true } }
  | .help, none =>
    match reading.resolve with
    | .error error => .error error
    | .ok _ => .error .helpRequested

/-- Reads one more argument. -/
def step (reading : Reading) (argument : String) : Except ArgumentError Reading :=
  if reading.divided then reading.plain argument
  else
    match form argument.toList with
    | .divider => .ok { reading with divided := true }
    | .long name value =>
      match longSwitch? name with
      | none => .error (.unknown argument)
      | some switch => reading.switch switch value
    | .short letter rest =>
      match shortSwitch? letter with
      | none => .error (.unknown argument)
      | some (.valued parameter) => reading.switch (.valued parameter) (attached? rest)
      | some switch => reading.switch switch none
    | .plain =>
      match reading.awaiting? with
      | some parameter => .ok { reading with pending := some (parameter, some argument) }
      | none => reading.plain argument

end Reading

/-- Checks that the arguments go together. -/
def check (arguments : Arguments) : Except ArgumentError Arguments :=
  match arguments.configuration, arguments.program with
  | some _, some _ => .error .conflict
  | none, none => if arguments.name.isSome then .error .missingConfiguration else .ok arguments
  | _, _ => .ok arguments

/-- Reads the command line. -/
def parse (arguments : List String) : Except ArgumentError Arguments := do
  let reading ← arguments.foldlM Reading.step {}
  let resolved ← reading.resolve
  resolved.arguments.check

end Arguments

end ScriptDebugger
