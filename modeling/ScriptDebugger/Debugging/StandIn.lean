import ScriptDebugger.Debugging.Target

/-!
# A stand-in for a program

A target with prepared answers, for trying out what is built on a debugger. It counts what it is asked
and can be told to fail, also while it is setting a variable.
-/

namespace ScriptDebugger

/-- The operations of a target that can be made to fail. -/
inductive TargetOperation where
  | resume
  | terminate
  | bindings
  | setVariable
  | evaluate
  | memory
  deriving DecidableEq, Repr

/-- How messages speak of an operation. -/
def TargetOperation.describe : TargetOperation → String
  | .resume => "resume"
  | .terminate => "terminate"
  | .bindings => "variables"
  | .setVariable => "set_variable"
  | .evaluate => "evaluate"
  | .memory => "memory"

/-- Why a stand-in fails. -/
inductive StandInError where
  /-- It was told to. -/
  | injected (operation : TargetOperation)
  /-- There is no prepared value. -/
  | cannotEvaluate (expression : String)
  deriving DecidableEq, Repr

/-- The wording of a stand-in's error. -/
def StandInError.message : StandInError → String
  | .injected operation => "injected failure in " ++ operation.describe
  | .cannotEvaluate expression => "cannot evaluate " ++ Text.quote expression

/-- A stand-in for a program. -/
structure StandIn where
  bindings : Variables := .empty
  memory : List UInt8 := []
  /-- The prepared values of expressions. -/
  evaluations : Variables := .empty
  /-- What becomes of a text that a variable is set to. -/
  coercion : String → String := id
  attached : Bool := false
  resumes : Nat := 0
  terminates : Nat := 0
  /-- Whether the next operation fails. -/
  failNext : Bool := false
  /-- Whether it is told to fail next while it sets a variable to a text, by the coercion of the text or by
  somebody else. -/
  failsAmid : String → Bool := fun _ => false

namespace StandIn

/-- Performs an operation unless it was told to fail, which it does once. -/
def guarded {α : Type} (operation : TargetOperation) (standIn : StandIn)
    (action : StandIn → StandIn × Except StandInError α) : StandIn × Except StandInError α :=
  if standIn.failNext then ({ standIn with failNext := false }, .error (.injected operation))
  else action standIn

/-- Counts a request to go on. -/
def resume (standIn : StandIn) : StandIn × Except StandInError Unit :=
  guarded .resume standIn fun ready => ({ ready with resumes := ready.resumes + 1 }, .ok ())

/-- Counts a request to end. -/
def terminate (standIn : StandIn) : StandIn × Except StandInError Unit :=
  guarded .terminate standIn fun ready =>
    ({ ready with terminates := ready.terminates + 1 }, .ok ())

/-- Binds a variable, whatever its name is. -/
def setVariable (name content : String) (standIn : StandIn) :
    StandIn × Except StandInError Unit :=
  guarded .setVariable standIn fun ready =>
    ({ ready with
      bindings := ready.bindings.insert name (ready.coercion content)
      failNext := ready.failsAmid content }, .ok ())

/-- The prepared value of an expression. -/
def evaluate (expression : String) (standIn : StandIn) : StandIn × Except StandInError String :=
  guarded .evaluate standIn fun ready =>
    match ready.evaluations.get? expression with
    | some value => (ready, .ok value)
    | none => (ready, .error (.cannotEvaluate expression))

end StandIn

instance : Target StandIn StandInError where
  resume := StandIn.resume
  terminate := StandIn.terminate
  bindings standIn := StandIn.guarded .bindings standIn fun ready =>
    (ready, .ok ready.bindings)
  setVariable := StandIn.setVariable
  evaluate := StandIn.evaluate
  memory standIn := StandIn.guarded .memory standIn fun ready => (ready, .ok ready.memory)
  setAttached attached standIn := { standIn with attached := attached }
  proceed _ standIn := (standIn, [])

end ScriptDebugger
