import ScriptDebugger.Interpreter.Run

/-!
# Targets

What a debugger needs of the program that it controls. An operation that fails may still change the
target.
-/

namespace ScriptDebugger

/-- A program under control of a debugger, whose operations fail with errors `ε`. -/
class Target (τ : Type) (ε : outParam Type) where
  /-- Asks a suspended program to go on. -/
  resume : τ → τ × Except ε Unit
  /-- Asks the program to end. -/
  terminate : τ → τ × Except ε Unit
  bindings : τ → τ × Except ε Variables
  setVariable : String → String → τ → τ × Except ε Unit
  evaluate : String → τ → τ × Except ε String
  memory : τ → τ × Except ε (List UInt8)
  /-- Sets whether a debugger is told of the run. -/
  setAttached : Bool → τ → τ
  /-- Lets the program go on as far as it was asked to, suspended before the lines that a debugger
  picks, and tells the signals that it gives meanwhile. -/
  proceed : (Nat → Bool) → τ → τ × List Signal

/-- The target after an operation, changed only if the operation succeeds. -/
def Interpreter.attempt (interpreter : Interpreter)
    (result : Except InterpreterError Interpreter) :
    Interpreter × Except InterpreterError Unit :=
  match result with
  | .ok changed => (changed, .ok ())
  | .error error => (interpreter, .error error)

instance : Target Interpreter InterpreterError where
  resume interpreter := (interpreter.resume, .ok ())
  terminate interpreter := interpreter.attempt interpreter.terminate
  bindings interpreter := (interpreter, .ok interpreter.bindings)
  setVariable name content interpreter :=
    interpreter.attempt (interpreter.setVariable name content)
  evaluate expression interpreter := (interpreter, interpreter.evaluate expression)
  memory interpreter := (interpreter, .ok interpreter.memory)
  setAttached attached interpreter := { interpreter with attached := attached }
  proceed stops interpreter :=
    match interpreter.proceed (Observer.noting stops) [] with
    | (changed, signals) => (changed, signals.reverse)

/-! ## Memory -/

/-- At most `length` bytes of the memory from an address on: fewer if the memory ends before, none if
the address is negative or beyond the end. -/
def readMemory (memory : List UInt8) (start : Int) (length : Nat) : List UInt8 :=
  match start with
  | .ofNat start => (memory.drop start).take length
  | .negSucc _ => []

end ScriptDebugger
