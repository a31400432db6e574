import ScriptDebugger.Debugging.EventQueue
import ScriptDebugger.Debugging.LineSet
import ScriptDebugger.Debugging.Target

/-!
# The debugger

A debugger keeps the breakpoints and whether the program is stepped through. It carries out requests on
its target and tells by notices what they result in. As a processor of an event queue it handles the
requests and posts its notices.
-/

namespace ScriptDebugger

/-- The state of a debugger. -/
structure Debugger where
  breakpoints : LineSet := .empty
  stepping : Bool := false
  deriving DecidableEq

/-- What a debugger was doing when its target failed. -/
inductive RequestContext where
  | resuming
  | terminating
  | resumingDetached
  | fetchingVariables
  | changingVariable (name : String)
  | evaluating (expression : String)
  | fetchingMemory
  deriving DecidableEq, Repr

/-- The wording of a context. -/
def RequestContext.message : RequestContext → String
  | .resuming => "resuming interpreter"
  | .terminating => "terminating interpreter"
  | .resumingDetached => "resuming detached interpreter"
  | .fetchingVariables => "fetching variables"
  | .changingVariable name => "changing variable " ++ name
  | .evaluating expression => "evaluating expression " ++ Text.quote expression
  | .fetchingMemory => "fetching memory"

/-- Why a request failed. -/
structure RequestError (ε : Type) where
  context : RequestContext
  cause : ε
  deriving DecidableEq, Repr

/-- What a request leads to. -/
structure Response (τ ε : Type) where
  debugger : Debugger
  target : τ
  /-- What the debugger has to tell, in order. -/
  notices : List Notice := []
  /-- Whether the debugger lets go of its target and handles nothing more. -/
  detaches : Bool := false
  result : Except (RequestError ε) Unit := .ok ()

namespace Debugger

/-! ## What the target asks and tells -/

/-- Whether the program is suspended before a line: at a breakpoint, and at every line while it is
stepped through. -/
def stopsAt (debugger : Debugger) (line : Nat) : Bool :=
  decide (line ∈ debugger.breakpoints) || debugger.stepping

/-- What there is to tell of a signal. -/
def notice (debugger : Debugger) : Signal → Notice
  | .loaded => .started
  | .suspended line => .suspended line
  | .resumed => .resumed (if debugger.stepping then .stepping else .continue)
  | .terminated => .terminated

/-! ## Requests -/

/-- The debugger with a breakpoint changed. A marker without a line changes nothing. -/
def changeBreakpoint (debugger : Debugger) (marker : Marker) (change : BreakpointChange) :
    Debugger :=
  match marker.line?, change with
  | none, _ => debugger
  | some line, .added => { debugger with breakpoints := debugger.breakpoints.insert line }
  | some line, .removed => { debugger with breakpoints := debugger.breakpoints.erase line }

variable {τ ε : Type} [Target τ ε]

/-- Sets the program going, stepping or not from then on unless the target fails. -/
def handleResume (kind : ResumeKind) (debugger : Debugger) (target : τ) : Response τ ε :=
  match Target.resume target with
  | (target, .ok ()) =>
    { debugger := { debugger with stepping := kind = .stepOver }, target := target }
  | (target, .error cause) =>
    { debugger := debugger, target := target, result := .error ⟨.resuming, cause⟩ }

/-- Asks the target to end. -/
def handleTerminate (debugger : Debugger) (target : τ) : Response τ ε :=
  match Target.terminate target with
  | (target, .ok ()) => { debugger := debugger, target := target }
  | (target, .error cause) =>
    { debugger := debugger, target := target, result := .error ⟨.terminating, cause⟩ }

/-- Lets go of the target, which goes on alone. -/
def handleDisconnect (debugger : Debugger) (target : τ) : Response τ ε :=
  match Target.resume (Target.setAttached false target) with
  | (target, .ok ()) => { debugger := debugger, target := target, detaches := true }
  | (target, .error cause) =>
    { debugger := debugger, target := target, detaches := true,
      result := .error ⟨.resumingDetached, cause⟩ }

/-- Tells the variables of the target. -/
def handleVariables (debugger : Debugger) (target : τ) : Response τ ε :=
  match Target.bindings target with
  | (target, .ok bindings) =>
    { debugger := debugger, target := target, notices := [.bindings bindings] }
  | (target, .error cause) =>
    { debugger := debugger, target := target, result := .error ⟨.fetchingVariables, cause⟩ }

/-- Changes a variable and tells the variables. -/
def handleChange (name content : String) (debugger : Debugger) (target : τ) : Response τ ε :=
  match Target.setVariable name content target with
  | (target, .ok ()) => handleVariables debugger target
  | (target, .error cause) =>
    { debugger := debugger, target := target, result := .error ⟨.changingVariable name, cause⟩ }

/-- Tells the value of an expression. -/
def handleEvaluate (evaluation : Evaluation) (debugger : Debugger) (target : τ) : Response τ ε :=
  match Target.evaluate evaluation.expression target with
  | (target, .ok value) =>
    { debugger := debugger, target := target, notices := [.evaluated evaluation value] }
  | (target, .error cause) =>
    { debugger := debugger, target := target,
      result := .error ⟨.evaluating evaluation.expression, cause⟩ }

/-- Tells the bytes of a part of the memory. -/
def handleMemory (start : Int) (length : Nat) (debugger : Debugger) (target : τ) :
    Response τ ε :=
  match Target.memory target with
  | (target, .ok memory) =>
    { debugger := debugger, target := target,
      notices := [.memory start (readMemory memory start length)] }
  | (target, .error cause) =>
    { debugger := debugger, target := target, result := .error ⟨.fetchingMemory, cause⟩ }

/-- Carries out a request. -/
def handle (debugger : Debugger) (target : τ) : Request → Response τ ε
  | .resume kind => handleResume kind debugger target
  | .terminate => handleTerminate debugger target
  | .disconnect => handleDisconnect debugger target
  | .breakpoint marker change =>
    { debugger := debugger.changeBreakpoint marker change, target := target }
  | .fetchVariables => handleVariables debugger target
  | .changeVariable name content => handleChange name content debugger target
  | .evaluate evaluation => handleEvaluate evaluation debugger target
  | .fetchMemory start length => handleMemory start length debugger target

end Debugger

/-! ## At a queue -/

variable {τ ε κ : Type}

/-- What a debugger does to its queue in response to a request. -/
def Response.operations (response : Response τ ε) : List (QueueOperation κ) :=
  response.notices.map (fun notice => .post [.notice notice]) ++
    if response.detaches then [.stop] else []

/-- Lets a debugger handle an event. It ignores the notices, which are its own. -/
def Debugger.serve [Target τ ε] (debugger : Debugger) (target : τ) :
    Event → Debugger × τ × List (QueueOperation κ)
  | .notice _ => (debugger, target, [])
  | .request request =>
    let response : Response τ ε := debugger.handle target request
    (response.debugger, response.target, response.operations)

/-- What the handling of an event by a debugger results in. -/
def Debugger.verdict [Target τ ε] (debugger : Debugger) (target : τ) : Event → Except String Unit
  | .notice _ => .ok ()
  | .request request =>
    let response : Response τ ε := debugger.handle target request
    response.result.mapError fun error => error.context.message

end ScriptDebugger
