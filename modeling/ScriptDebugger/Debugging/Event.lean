import ScriptDebugger.Debugging.Marker
import ScriptDebugger.Variables

/-!
# Events

A debugger tells what happens in the program by notices and is told what to do by requests. Both are
events and travel through one queue.
-/

namespace ScriptDebugger

/-- What an expression evaluation is known by, from the request to its answer. -/
structure Evaluation where
  id : Nat
  expression : String
  deriving DecidableEq, Repr

/-- How the program was set going again. -/
inductive ResumeCause where
  | continue
  | stepping
  deriving DecidableEq, Repr

/-- What a debugger tells of the program. -/
inductive Notice where
  | started
  | suspended (line : Nat)
  | resumed (cause : ResumeCause)
  | terminated
  | bindings (values : Variables)
  | evaluated (evaluation : Evaluation) (result : String)
  /-- The bytes from the address asked for on, which may be fewer than asked for. -/
  | memory (start : Int) (bytes : List UInt8)
  deriving DecidableEq

/-- How to set the program going again. -/
inductive ResumeKind where
  | continue
  | stepOver
  deriving DecidableEq, Repr

/-- What becomes of a breakpoint. -/
inductive BreakpointChange where
  | added
  | removed
  deriving DecidableEq, Repr

/-- What a debugger is asked to do. -/
inductive Request where
  | resume (kind : ResumeKind)
  | terminate
  | disconnect
  | breakpoint (marker : Marker) (change : BreakpointChange)
  | fetchVariables
  | changeVariable (name content : String)
  | evaluate (evaluation : Evaluation)
  | fetchMemory (start : Int) (length : Nat)
  deriving DecidableEq, Repr

/-- What travels through the queue. -/
inductive Event where
  | notice (notice : Notice)
  | request (request : Request)
  deriving DecidableEq

/-- Whether an event is the last one delivered. -/
def Event.isFinal : Event → Bool
  | .notice .terminated => true
  | _ => false

end ScriptDebugger
