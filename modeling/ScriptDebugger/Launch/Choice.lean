import ScriptDebugger.Host.FileError
import ScriptDebugger.Jsonc.Read
import ScriptDebugger.Launch.Configuration
import ScriptDebugger.Text.Quoted
import ScriptDebugger.Text.Parts

/-!
# Choosing a launch configuration

A configuration file holds entries for several debuggers; those of this one have the type `textdbg`. An
entry is chosen by its name; without a name the names are listed. Only the chosen entry has to be in
order.
-/

namespace ScriptDebugger.Launch

/-- What a configuration file gives. -/
inductive Choice where
  | specific (configuration : Configuration)
  | notFound
  | toBeChosen (names : List String)
  deriving DecidableEq, Repr

/-- Why a configuration file gives nothing. -/
inductive LoadError where
  | unreadable (cause : FileError)
  /-- The text breaks the rules of the notation. What the parser says of it depends on the text alone. -/
  | malformed {text : String}
  | noValue
  | wrongShape
  | wrongConfiguration (name : String)
  | unsupportedRequest (request name : String)
  deriving DecidableEq, Repr

/-- The wording of a load error, the outermost context first. -/
def LoadError.messages : LoadError → List String
  | .unreadable cause => ["reading configuration contents", cause.message]
  | .malformed =>
    ["parsing launch configuration", "parsing jsonc configuration", "parsing jsonc configuration"]
  | .noValue =>
    ["parsing launch configuration", "parsing jsonc configuration", "no configuration found"]
  | .wrongShape =>
    ["parsing launch configuration", "parsing jsonc configuration",
      "deserializing jsonc::Value value"]
  | .wrongConfiguration name =>
    ["parsing launch configuration",
      "deserializing launch configuration " ++ Text.quote name]
  | .unsupportedRequest request name =>
    ["parsing launch configuration",
      "unsupported request " ++ Text.quote request ++ " in launch configuration " ++
        Text.quote name]

/-! ## Entries of a file -/

/-- The array of a value that is one. -/
def array? : Jsonc.Value → Option (List Jsonc.Value)
  | .array elements => some elements
  | _ => none

/-- The entries of a list of configurations: an object with its version and the entries, or both in an
array. -/
def listed? : Jsonc.Value → Option (List Jsonc.Value)
  | .object members => do
    let _ ← Configuration.optionalText? (Jsonc.Value.member? "version" (.object members))
    array? (← Jsonc.Value.member? "configurations" (.object members))
  | .array [version, entries] => do
    let _ ← Configuration.optionalText? (some version)
    array? entries
  | _ => none

/-- The entries of a file: a list of configurations, or an object that has one as its member `launch`. -/
def entries? (value : Jsonc.Value) : Option (List Jsonc.Value) :=
  match listed? value with
  | some entries => some entries
  | none =>
    match value.member? "launch" with
    | some launch => listed? launch
    | none => none

/-! ## The choice -/

/-- The type of the entries that are meant for this debugger. -/
def configurationType : String :=
  "textdbg"

/-- Whether an entry is meant for this debugger. -/
def isOurs (entry : Jsonc.Value) : Bool :=
  (entry.member? "type").bind Jsonc.Value.text? == some configurationType

/-- The name of an entry. -/
def name? (entry : Jsonc.Value) : Option String :=
  (entry.member? "name").bind Jsonc.Value.text?

/-- The configuration of the entry that a name has chosen. -/
def specific (name : String) (entry : Jsonc.Value) : Except LoadError Choice :=
  match Configuration.ofValue? entry with
  | none => .error (.wrongConfiguration name)
  | some configuration =>
    if configuration.request = "launch" then .ok (.specific configuration)
    else .error (.unsupportedRequest configuration.request name)

/-- Chooses from the entries that are meant for this debugger. -/
def chooseFrom (name : Option String) (entries : List Jsonc.Value) : Except LoadError Choice :=
  match name with
  | none => .ok (.toBeChosen (entries.filterMap name?))
  | some name =>
    match entries.find? fun entry => name? entry == some name with
    | none => .ok .notFound
    | some entry => specific name entry

/-- Chooses from the value of a configuration file. -/
def choose (name : Option String) (value : Jsonc.Value) : Except LoadError Choice :=
  match entries? value with
  | none => .error .wrongShape
  | some entries => chooseFrom name (entries.filter isOurs)

/-- Chooses from the text of a configuration file. -/
def ofText (name : Option String) (text : String) : Except LoadError Choice :=
  match Jsonc.read text with
  | .error .malformed => .error (@LoadError.malformed text)
  | .error .noValue => .error .noValue
  | .ok value => choose name value

/-- Chooses from the bytes of a configuration file. -/
def ofBytes (name : Option String) (bytes : List UInt8) : Except LoadError Choice :=
  match Text.ofUtf8? bytes with
  | none => .error (.unreadable .notText)
  | some text => ofText name text

/-- The choice with a specific configuration taken from a directory. -/
def Choice.resolve (root : String) : Choice → Choice
  | .specific configuration => .specific (configuration.resolve root)
  | choice => choice

/-! ## Files -/

/-- Why a file at a path gives no choice. -/
inductive FileLoadError where
  | opening (path : String) (cause : FileError)
  | loading (cause : LoadError)
  deriving DecidableEq, Repr

/-- The wording of the error, the outermost context first. -/
def FileLoadError.messages : FileLoadError → List String
  | .opening path cause => ["opening input path " ++ path, cause.message]
  | .loading cause => "loading file from given path" :: cause.messages

/-- Chooses from the file at a path, given what reading it gives. A configuration is taken from the
directory of its file. -/
def ofFile (name : Option String) (path : String) (contents : Except ReadError (List UInt8)) :
    Except FileLoadError Choice :=
  match contents with
  | .error (.opening cause) => .error (.opening path cause)
  | .error (.reading cause) => .error (.loading (.unreadable cause))
  | .ok bytes =>
    match ofBytes name bytes with
    | .error error => .error (.loading error)
    | .ok choice => .ok (choice.resolve (Path.directory path))

end ScriptDebugger.Launch
