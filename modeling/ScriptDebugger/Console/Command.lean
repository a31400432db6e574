import ScriptDebugger.Text.Parts
import ScriptDebugger.Text.Integer
import ScriptDebugger.Text.Quoted

/-!
# Commands

What can be typed at the prompt: a command word, then its arguments.
-/

namespace ScriptDebugger

/-- A command of the prompt. -/
inductive Command where
  | continue
  | stepOver
  | showVariables
  | setVariable (name content : String)
  | evaluate (expression : String)
  | memory (start : Int) (length : Nat)
  | addBreakpoint (line : Nat)
  | removeBreakpoint (line : Nat)
  | listBreakpoints
  | whereabouts
  | terminate
  | disconnect
  | quit
  | help
  | nothing
  deriving DecidableEq, Repr

/-- A number that a command takes. -/
inductive CommandArgument where
  | startAddress
  | length
  | line
  deriving DecidableEq, Repr

/-- How messages speak of an argument. -/
def CommandArgument.describe : CommandArgument → String
  | .startAddress => "start address"
  | .length => "length"
  | .line => "line"

/-- Why an input is no command. -/
inductive CommandError where
  | setUsage
  | evaluateUsage
  | missing (argument : CommandArgument)
  | invalid (argument : CommandArgument) (text : String) (cause : Text.IntegerError)
  | unknown (word : String)
  deriving DecidableEq, Repr

/-- The wording of a command error. -/
def CommandError.message : CommandError → String
  | .setUsage => "usage: set NAME=VALUE"
  | .evaluateUsage => "usage: e EXPR"
  | .missing argument => "missing " ++ argument.describe
  | .invalid argument text cause =>
    "invalid " ++ argument.describe ++ " " ++ Text.quote text ++ ": " ++ cause.message
  | .unknown word => "unhandled command: '" ++ word ++ "'"

/-- What the command `help` shows. -/
def helpText : String :=
  "commands:\n" ++
  "  c                 continue\n" ++
  "  n                 step over\n" ++
  "  v                 show variables\n" ++
  "  set NAME=VALUE    change a variable\n" ++
  "  e EXPR            evaluate an expression\n" ++
  "  m START LEN       dump program memory\n" ++
  "  b LINE            add a breakpoint\n" ++
  "  rb LINE           remove a breakpoint\n" ++
  "  bl                list breakpoints\n" ++
  "  w                 show where the program is\n" ++
  "  t                 terminate the program\n" ++
  "  d                 detach and let the program finish\n" ++
  "  q                 quit"

namespace Command

/-! ## Reading -/

/-- Reads a number that a command takes; an empty text is a missing argument. -/
def readArgument {α : Type} (argument : CommandArgument)
    (read : List Char → Except Text.IntegerError α) (characters : List Char) :
    Except CommandError α :=
  if characters.isEmpty then .error (.missing argument)
  else
    match read characters with
    | .ok value => .ok value
    | .error cause => .error (.invalid argument (String.ofList characters) cause)

/-- Reads the line of a breakpoint. -/
def readLine (characters : List Char) : Except CommandError Nat :=
  readArgument .line Text.readCountChars characters

/-- Reads a start address and a length. What follows them is ignored. -/
def readMemory (characters : List Char) : Except CommandError Command :=
  match readArgument .startAddress Text.readIntegerChars (Text.nextWord characters).1 with
  | .error error => .error error
  | .ok start =>
    match readArgument .length Text.readCountChars
        (Text.nextWord (Text.nextWord characters).2).1 with
    | .error error => .error error
    | .ok length => .ok (.memory start length)

/-- Reads a name and a content around the first `=`. -/
def readAssignment (characters : List Char) : Except CommandError Command :=
  match Text.splitOnce (· == '=') characters with
  | none => .error .setUsage
  | some (name, content) =>
    .ok (.setVariable (String.ofList (Text.trimChars name)) (String.ofList content))

/-- The command of a word and the text after it, neither of which has blanks at its ends. -/
def ofWord (word : String) (rest : List Char) : Except CommandError Command :=
  match word with
  | "" => .ok .nothing
  | "c" => .ok .continue
  | "n" => .ok .stepOver
  | "v" => .ok .showVariables
  | "set" => readAssignment rest
  | "e" => if rest.isEmpty then .error .evaluateUsage else .ok (.evaluate (String.ofList rest))
  | "m" => readMemory rest
  | "b" => (readLine rest).map .addBreakpoint
  | "rb" => (readLine rest).map .removeBreakpoint
  | "bl" => .ok .listBreakpoints
  | "w" => .ok .whereabouts
  | "t" => .ok .terminate
  | "d" => .ok .disconnect
  | "q" => .ok .quit
  | "h" => .ok .help
  | "help" => .ok .help
  | "?" => .ok .help
  | _ => .error (.unknown word)

/-- Reads a command. -/
def parse (input : String) : Except CommandError Command :=
  let trimmed := Text.trimChars input.toList
  ofWord (String.ofList (trimmed.takeWhile fun c => !Text.isBlank c))
    (Text.trimChars (trimmed.dropWhile fun c => !Text.isBlank c))

/-! ## Writing -/

/-- The written form of a command, as `help` shows it. -/
def text : Command → String
  | .continue => "c"
  | .stepOver => "n"
  | .showVariables => "v"
  | .setVariable name content => "set " ++ name ++ "=" ++ content
  | .evaluate expression => "e " ++ expression
  | .memory start length => "m " ++ Text.decimal start ++ " " ++ Text.decimal length
  | .addBreakpoint line => "b " ++ Text.decimal line
  | .removeBreakpoint line => "rb " ++ Text.decimal line
  | .listBreakpoints => "bl"
  | .whereabouts => "w"
  | .terminate => "t"
  | .disconnect => "d"
  | .quit => "q"
  | .help => "h"
  | .nothing => ""

end Command

end ScriptDebugger
