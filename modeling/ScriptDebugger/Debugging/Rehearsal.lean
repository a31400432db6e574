import ScriptDebugger.Debugging.LineSet
import ScriptDebugger.Interpreter.Run

/-!
# Rehearsals

A rehearsal runs a script before a prepared debugger: what this does each time it is told of the run is
laid down beforehand, and a log keeps what came of it. A run that is suspended always goes on, because
the debugger ends it if its preparation neither resumes nor ends it.
-/

namespace ScriptDebugger

/-- What can be asked of an interpreter and its prepared debugger. -/
inductive Action where
  | run
  | resume
  | terminate
  | setVariable (name content : String)
  | evaluate (expression : String)
  | bindings
  | memory
  | output
  | status
  | line (number : Nat)
  | lineCount
  | attach
  | detach
  | addBreakpoint (line : Nat)
  | removeBreakpoint (line : Nat)
  deriving DecidableEq, Repr

/-- What an action gives. -/
inductive Result where
  | done
  | failed (error : InterpreterError)
  | text (content : Option String)
  | texts (lines : List String)
  | bindings (values : Variables)
  | bytes (content : List UInt8)
  | status (status : Status)
  | count (number : Nat)
  | truth (value : Bool)

/-- What the debugger can be told or asked. -/
inductive Occasion where
  | loaded
  | stopsAt (line : Nat)
  | suspended (line : Nat)
  | resumed
  | terminated
  deriving DecidableEq, Repr

/-- An entry of the log. -/
inductive LogEntry where
  /-- The debugger was told or asked, with the status at that time, and its actions had these results. -/
  | called (occasion : Occasion) (status : Status) (results : List Result)
  /-- The debugger ended the run, which would have waited otherwise. -/
  | ended (result : Result)

/-- The actions of a prepared debugger. -/
structure Preparation where
  loaded : List Action := []
  resumed : List Action := []
  terminated : List Action := []
  /-- The actions for each suspension in turn. -/
  suspended : List (List Action) := []
  /-- The actions for the lines that it is asked about. -/
  lines : List (Nat × List Action) := []

/-- The state of a prepared debugger. -/
structure Rehearsal where
  breakpoints : LineSet
  suspensions : Nat := 0
  log : Array LogEntry := #[]

/-- What an action gives and leaves. -/
structure Performance where
  result : Result := .done
  interpreter : Interpreter
  rehearsal : Rehearsal

namespace Performance

/-- The outcome of an operation on the interpreter that may fail. -/
def attempt (interpreter : Interpreter) (rehearsal : Rehearsal) :
    Except InterpreterError Interpreter → Performance
  | .ok changed => { interpreter := changed, rehearsal := rehearsal }
  | .error error =>
    { result := .failed error, interpreter := interpreter, rehearsal := rehearsal }

end Performance

/-! ## Actions -/

/-- Performs an action during a run, which can not be run again. -/
def Action.perform (action : Action) (interpreter : Interpreter) (rehearsal : Rehearsal) :
    Performance :=
  let given (result : Result) : Performance :=
    { result := result, interpreter := interpreter, rehearsal := rehearsal }
  match action with
  | .run => .attempt interpreter rehearsal interpreter.start
  | .resume => { interpreter := interpreter.resume, rehearsal := rehearsal }
  | .terminate => .attempt interpreter rehearsal interpreter.terminate
  | .setVariable name content =>
    .attempt interpreter rehearsal (interpreter.setVariable name content)
  | .evaluate expression =>
    match interpreter.evaluate expression with
    | .ok value => given (.text (some value))
    | .error error => given (.failed error)
  | .bindings => given (.bindings interpreter.bindings)
  | .memory => given (.bytes interpreter.memory)
  | .output => given (.texts interpreter.output.toList)
  | .status => given (.status interpreter.status)
  | .line number => given (.text (interpreter.line? number))
  | .lineCount => given (.count interpreter.lineCount)
  | .attach => { interpreter := { interpreter with attached := true }, rehearsal := rehearsal }
  | .detach => { interpreter := { interpreter with attached := false }, rehearsal := rehearsal }
  | .addBreakpoint number =>
    { result := .truth (number ∉ rehearsal.breakpoints), interpreter := interpreter,
      rehearsal := { rehearsal with breakpoints := rehearsal.breakpoints.insert number } }
  | .removeBreakpoint number =>
    { result := .truth (number ∈ rehearsal.breakpoints), interpreter := interpreter,
      rehearsal := { rehearsal with breakpoints := rehearsal.breakpoints.erase number } }

/-- Performs actions in order. -/
def performAll : List Action → Interpreter → Rehearsal → List Result × Interpreter × Rehearsal
  | [], interpreter, rehearsal => ([], interpreter, rehearsal)
  | action :: rest, interpreter, rehearsal =>
    let performance := action.perform interpreter rehearsal
    match performAll rest performance.interpreter performance.rehearsal with
    | (results, interpreter, rehearsal) => (performance.result :: results, interpreter, rehearsal)

/-! ## The prepared debugger -/

/-- Performs the actions of an occasion and logs them. -/
def Occasion.play (occasion : Occasion) (actions : List Action) (interpreter : Interpreter)
    (rehearsal : Rehearsal) : Interpreter × Rehearsal :=
  match performAll actions interpreter rehearsal with
  | (results, changed, rehearsal) =>
    (changed, { rehearsal with
      log := rehearsal.log.push (.called occasion interpreter.status results) })

/-- Ends a waiting run unless the actions let it go on or end. -/
def ensureWake (actions : List Action) (interpreter : Interpreter) (rehearsal : Rehearsal) :
    Interpreter × Rehearsal :=
  if .resume ∈ actions ∨ .terminate ∈ actions then (interpreter, rehearsal)
  else
    let performance := Action.terminate.perform interpreter rehearsal
    (performance.interpreter, { performance.rehearsal with
      log := performance.rehearsal.log.push (.ended performance.result) })

/-- The debugger of a preparation. -/
def Preparation.observer (preparation : Preparation) : Observer Rehearsal where
  loaded interpreter rehearsal :=
    match Occasion.loaded.play preparation.loaded interpreter rehearsal with
    | (changed, rehearsal) =>
      if interpreter.suspendOnLoad then ensureWake preparation.loaded changed rehearsal
      else (changed, rehearsal)
  stopsAt line interpreter rehearsal :=
    match preparation.lines.lookup line with
    | none => (decide (line ∈ rehearsal.breakpoints), interpreter, rehearsal)
    | some actions =>
      match (Occasion.stopsAt line).play actions interpreter rehearsal with
      | (interpreter, rehearsal) =>
        (decide (line ∈ rehearsal.breakpoints), interpreter, rehearsal)
  suspended line interpreter rehearsal :=
    let actions := preparation.suspended.getD rehearsal.suspensions []
    match (Occasion.suspended line).play actions interpreter
        { rehearsal with suspensions := rehearsal.suspensions + 1 } with
    | (interpreter, rehearsal) => ensureWake actions interpreter rehearsal
  resumed := Occasion.resumed.play preparation.resumed
  terminated := Occasion.terminated.play preparation.terminated

/-- Performs an action outside a run. -/
def Preparation.perform (preparation : Preparation) (action : Action) (interpreter : Interpreter)
    (rehearsal : Rehearsal) : Performance :=
  match action with
  | .run =>
    match interpreter.run preparation.observer rehearsal with
    | .ok (interpreter, rehearsal) => { interpreter := interpreter, rehearsal := rehearsal }
    | .error error =>
      { result := .failed error, interpreter := interpreter, rehearsal := rehearsal }
  | action => action.perform interpreter rehearsal

end ScriptDebugger
