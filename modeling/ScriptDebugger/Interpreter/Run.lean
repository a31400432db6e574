import ScriptDebugger.Interpreter.State

/-!
# Running a script

A run goes from line to line until it is suspended or ends. An attached debugger observes it: it is
told when the script is loaded, suspended, resumed and terminated, and decides before which lines the
run is suspended. What it does meanwhile may act on the interpreter itself.
-/

namespace ScriptDebugger

/-- What an attached debugger does when it is told of the run. Each reaction may change the
interpreter and a state of the observer's own. -/
structure Observer (σ : Type) where
  loaded : Interpreter → σ → Interpreter × σ
  /-- Whether to suspend the run before a line. -/
  stopsAt : Nat → Interpreter → σ → Bool × Interpreter × σ
  suspended : Nat → Interpreter → σ → Interpreter × σ
  resumed : Interpreter → σ → Interpreter × σ
  terminated : Interpreter → σ → Interpreter × σ

namespace Interpreter

variable {σ : Type} (observer : Observer σ)

/-! ## Suspension -/

/-- The interpreter waiting, with no request to go on yet. -/
def suspendedAt (line : Option Nat) (interpreter : Interpreter) : Interpreter :=
  { interpreter with status := .suspended line, resumeRequested := false }

/-- Goes on after a suspension. -/
def leaveSuspension (interpreter : Interpreter) (state : σ) : Interpreter × σ :=
  let running := { interpreter with status := .running, resumeRequested := false }
  if running.attached then observer.resumed running state else (running, state)

/-- Ends the run. The debugger is detached before it is told. -/
def finish (interpreter : Interpreter) (state : σ) : Interpreter × σ :=
  let ended := { interpreter with status := .terminated, attached := false }
  if interpreter.attached then observer.terminated ended state else (ended, state)

/-! ## From line to line -/

/-- Runs the lines from number `number` on, until the run is suspended or ends. -/
def runLines : List String → Nat → Interpreter → σ → Interpreter × σ
  | [], _, interpreter, state => finish observer interpreter state
  | line :: rest, number, interpreter, state =>
    if interpreter.terminateRequested then finish observer interpreter state
    else if interpreter.attached then
      match observer.stopsAt number interpreter state with
      | (false, interpreter, state) =>
        runLines rest (number + 1) (interpreter.execute line) state
      | (true, interpreter, state) =>
        match observer.suspended number (interpreter.suspendedAt (some number)) state with
        | (interpreter, state) =>
          if interpreter.terminateRequested then finish observer interpreter state
          else if interpreter.resumeRequested then
            match leaveSuspension observer interpreter state with
            | (interpreter, state) =>
              runLines rest (number + 1) (interpreter.execute line) state
          else (interpreter, state)
    else runLines rest (number + 1) (interpreter.execute line) state

/-- Continues a suspended run if it was asked to go on or to end. -/
def proceed (interpreter : Interpreter) (state : σ) : Interpreter × σ :=
  match interpreter.status with
  | .suspended place =>
    if interpreter.terminateRequested then finish observer interpreter state
    else if interpreter.resumeRequested then
      match leaveSuspension observer interpreter state, place with
      | (interpreter, state), none => runLines observer interpreter.script 1 interpreter state
      | (interpreter, state), some number =>
        match interpreter.script.drop (number - 1) with
        | [] => finish observer interpreter state
        | line :: rest =>
          runLines observer rest (number + 1) (interpreter.execute line) state
    else (interpreter, state)
  | _ => (interpreter, state)

/-- Marks a run as started. A script is run at most once. -/
def start (interpreter : Interpreter) : Except InterpreterError Interpreter :=
  match interpreter.status with
  | .notStarted => .ok { interpreter with status := .running }
  | .terminated => .error .alreadyTerminated
  | _ => .error .alreadyStarted

/-- Runs the script from its start until the run is suspended or ends. -/
def run (interpreter : Interpreter) (state : σ) :
    Except InterpreterError (Interpreter × σ) :=
  match interpreter.start with
  | .error error => .error error
  | .ok interpreter =>
    if interpreter.attached then
      if interpreter.suspendOnLoad then
        match observer.loaded (interpreter.suspendedAt none) state with
        | (interpreter, state) => .ok (proceed observer interpreter state)
      else
        match observer.loaded interpreter state with
        | (interpreter, state) => .ok (runLines observer interpreter.script 1 interpreter state)
    else .ok (runLines observer interpreter.script 1 interpreter state)

end Interpreter

/-! ## Signals -/

/-- What a run tells of itself. -/
inductive Signal where
  | loaded
  | suspended (line : Nat)
  | resumed
  | terminated
  deriving DecidableEq, Repr

/-- The observer that notes all signals, the latest first, and stops before the lines that `stops`
picks. -/
def Observer.noting (stops : Nat → Bool) : Observer (List Signal) where
  loaded interpreter signals := (interpreter, .loaded :: signals)
  stopsAt line interpreter signals := (stops line, interpreter, signals)
  suspended line interpreter signals := (interpreter, .suspended line :: signals)
  resumed interpreter signals := (interpreter, .resumed :: signals)
  terminated interpreter signals := (interpreter, .terminated :: signals)

end ScriptDebugger
