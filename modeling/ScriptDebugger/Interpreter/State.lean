import ScriptDebugger.Script.Substitution
import ScriptDebugger.Script.Statement
import ScriptDebugger.Text.Parts

/-!
# The state of a script

A script is run line by line. Its interpreter holds the variables and the output so far, where the run
stands, and what was asked of it from outside: to go on, to end, or to tell a debugger.
-/

namespace ScriptDebugger

/-- Where a run stands. -/
inductive Status where
  | notStarted
  | running
  /-- Waiting before a line, or for the first line if there is none yet. -/
  | suspended (line : Option Nat)
  | terminated
  deriving DecidableEq, Repr

/-- Why an interpreter refuses an operation. -/
inductive InterpreterError where
  | alreadyStarted
  | alreadyTerminated
  | invalidVariableName (name : String)
  | evaluation (error : EvalError)
  deriving DecidableEq, Repr

/-- The wording of an interpreter error. -/
def InterpreterError.message : InterpreterError → String
  | .alreadyStarted => "interpreter already started"
  | .alreadyTerminated => "interpreter already terminated"
  | .invalidVariableName name => "invalid variable name " ++ Text.quote name
  | .evaluation error => error.message

/-- A script and the state of its run. -/
structure Interpreter where
  script : List String
  /-- Whether an attached debugger holds the run before its first line. -/
  suspendOnLoad : Bool := false
  status : Status := .notStarted
  bindings : Variables := .empty
  output : Array String := #[]
  resumeRequested : Bool := false
  terminateRequested : Bool := false
  /-- Whether a debugger is told of the run. -/
  attached : Bool := false

namespace Interpreter

/-- The interpreter of a source text, not started. -/
def ofSource (source : String) (suspendOnLoad : Bool) : Interpreter where
  script := Text.lines source
  suspendOnLoad := suspendOnLoad

/-- The text of a line, counted from one. -/
def line? (interpreter : Interpreter) : Nat → Option String
  | 0 => none
  | index + 1 => interpreter.script[index]?

/-- The number of lines. -/
def lineCount (interpreter : Interpreter) : Nat :=
  interpreter.script.length

/-! ## Control from outside -/

/-- Asks a suspended run to go on. Otherwise there is nothing to resume. -/
def resume (interpreter : Interpreter) : Interpreter :=
  match interpreter.status with
  | .suspended _ => { interpreter with resumeRequested := true }
  | _ => interpreter

/-- Asks the run to end before its next line. -/
def terminate (interpreter : Interpreter) : Except InterpreterError Interpreter :=
  match interpreter.status with
  | .terminated => .error .alreadyTerminated
  | _ => .ok { interpreter with terminateRequested := true }

/-- Binds a variable to a coerced content. -/
def setVariable (interpreter : Interpreter) (name content : String) :
    Except InterpreterError Interpreter :=
  if Text.isIdentifier name then
    .ok { interpreter with
      bindings := interpreter.bindings.insert name (coerce content interpreter.bindings) }
  else .error (.invalidVariableName name)

/-- The decimal value of an expression, its references replaced first. -/
def evaluate (interpreter : Interpreter) (expression : String) :
    Except InterpreterError String :=
  match ScriptDebugger.evaluate (substitute expression interpreter.bindings)
      interpreter.bindings with
  | .ok value => .ok (Text.decimal value)
  | .error error => .error (.evaluation error)

/-- The output as bytes, a line feed after each line. -/
def memory (interpreter : Interpreter) : List UInt8 :=
  interpreter.output.toList.flatMap fun line => Text.utf8 line ++ [10]

/-! ## One line -/

/-- Executes a line. -/
def execute (interpreter : Interpreter) (line : String) : Interpreter :=
  match Statement.ofLine line with
  | .nothing => interpreter
  | .assign name value =>
    { interpreter with
      bindings := interpreter.bindings.insert name (coerce value interpreter.bindings) }
  | .output text =>
    { interpreter with
      output := interpreter.output.push (substitute text interpreter.bindings) }

end Interpreter

end ScriptDebugger
