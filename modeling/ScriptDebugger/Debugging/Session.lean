import ScriptDebugger.Debugging.Debugger

/-!
# Debugging sessions

A session joins a target, a debugger and an event queue. Requests are submitted to the queue; the
debugger handles them, and the session's own view of the program follows the notices and publishes
them. A session is settled when nothing waits in the queue and the program has gone as far as it was
asked to.
-/

namespace ScriptDebugger

/-- What a session knows of the program. -/
inductive Phase where
  | notStarted
  | running
  | suspended (line : Nat)
  | terminated
  | disconnected
  deriving DecidableEq, Repr

/-- The phase after an event. -/
def Phase.after (phase : Phase) : Event → Phase
  | .notice .started => .running
  | .notice (.resumed _) => .running
  | .notice (.suspended line) => .suspended line
  | .notice .terminated => .terminated
  | .request .disconnect => .disconnected
  | _ => phase

/-- The processors of a session's queue. -/
inductive Role where
  /-- Handles the requests. -/
  | debugger
  /-- Follows the program and publishes the notices. -/
  | view
  deriving DecidableEq, Repr

/-- What the processors of a session act on. -/
structure SessionState (τ : Type) where
  target : τ
  debugger : Debugger := {}
  phase : Phase := .notStarted
  /-- All notices published so far. -/
  published : List Notice := []

/-! ## Processors -/

section Processors

variable {τ ε : Type} [Target τ ε]

/-- Lets the session's view follow an event. -/
def SessionState.follow (state : SessionState τ) (event : Event) : SessionState τ :=
  { state with
    phase := state.phase.after event
    published :=
      match event with
      | .notice notice => state.published ++ [notice]
      | .request _ => state.published }

/-- What the processors of a session do with events. -/
def sessionHandler : Handler Role (SessionState τ) where
  react
    | .debugger, event, state =>
      match state.debugger.serve state.target event with
      | (debugger, target, operations) =>
        ({ state with debugger := debugger, target := target }, operations)
    | .view, event, state => (state.follow event, [])
  result
    | .debugger, event, state => state.debugger.verdict state.target event
    | .view, _, _ => .ok ()

end Processors

/-! ## Sessions -/

/-- A debugging session. -/
structure Session (τ : Type) where
  queue : EventQueue Role
  state : SessionState τ
  /-- The breakpoints asked for. -/
  requested : LineSet := .empty
  /-- How many ids of evaluations are given out, by this session or by others. -/
  lastId : Nat := 0
  /-- How many of the published notices were received. -/
  received : Nat := 0

/-- Why waiting for a notice fails. -/
inductive WaitError where
  | timedOut (milliseconds : Nat)
  | closed
  deriving DecidableEq, Repr

/-- The wording of a wait error. -/
def WaitError.message : WaitError → String
  | .timedOut milliseconds =>
    "timed out after " ++ Text.duration milliseconds ++ " waiting for event"
  | .closed =>
    "debugger event channel closed: receiving on an empty and disconnected channel"

namespace Session

section Any

variable {τ ε : Type} [Target τ ε]

/-! ## Settling -/

/-- Delivers all that waits. A request is answered by one notice at most, so twice as many turns as
there are events are enough, and one more for the worker to finish. -/
def drain (session : Session τ) : Session τ :=
  match EventQueue.turns sessionHandler (2 * session.queue.pending.length + 1)
      (session.queue, session.state) with
  | (queue, state) => { session with queue := queue, state := state }

/-- Posts what the debugger has to tell of a signal. -/
def signal (session : Session τ) (signal : Signal) : Session τ :=
  { session with
    queue := session.queue.post (.notice (session.state.debugger.notice signal)) }

/-- Lets the target go on. -/
def proceed (session : Session τ) : Session τ :=
  match Target.proceed session.state.debugger.stopsAt session.state.target with
  | (target, signals) =>
    signals.foldl Session.signal { session with state := { session.state with target := target } }

/-- Settles the session: what waits is delivered, the target goes on, and what it tells is
delivered. -/
def settle (session : Session τ) : Session τ :=
  session.drain.proceed.drain

/-! ## Requests -/

/-- Submits a request. -/
def submit (session : Session τ) (request : Request) : Session τ :=
  { session with queue := session.queue.post (.request request) }

/-- Asks for a breakpoint. -/
def addBreakpoint (session : Session τ) (line : Nat) : Session τ :=
  { session with requested := session.requested.insert line }.submit
    (.breakpoint (Marker.atLine line) .added)

/-- Takes a breakpoint back. -/
def removeBreakpoint (session : Session τ) (line : Nat) : Session τ :=
  { session with requested := session.requested.erase line }.submit
    (.breakpoint (Marker.atLine line) .removed)

/-- An evaluation with the next id. The ids are words of 64 bits. -/
def newEvaluation (session : Session τ) (expression : String) : Evaluation × Session τ :=
  (⟨(session.lastId + 1) % UInt64.size, expression⟩, { session with lastId := session.lastId + 1 })

/-- Asks for the value of an expression, which will be known by the id of the evaluation. -/
def evaluate (session : Session τ) (expression : String) : Evaluation × Session τ :=
  match session.newEvaluation expression with
  | (evaluation, session) => (evaluation, session.submit (.evaluate evaluation))

/-! ## Beginning and end -/

/-- A session over a target that is not running yet, with breakpoints in place. -/
def create (target : τ) (breakpoints : List Nat) : Session τ :=
  let queue : EventQueue Role := { worker := .running, joinable := true }
  let fresh : Session τ :=
    { queue := (queue.register .debugger).register .view, state := { target := target } }
  let ready := (breakpoints.foldl addBreakpoint fresh).drain
  { ready with
    state := { ready.state with target := Target.setAttached true ready.state.target } }

/-- Waits until all requests are handled. -/
def flush (session : Session τ) (milliseconds : Nat) : Except QueueError Unit :=
  session.queue.flush .outside milliseconds

/-- Stops the queue and waits for its worker. -/
def shutdown (session : Session τ) : Session τ × Except QueueError Unit :=
  let stopped := { session with queue := session.queue.stop }.drain
  match stopped.queue.join .outside with
  | (queue, result) => ({ stopped with queue := queue }, result)

/-! ## Published notices -/

/-- The notices not received yet. -/
def unread (session : Session τ) : List Notice :=
  session.state.published.drop session.received

/-- Whether no notice will be published any more. -/
def isClosed (session : Session τ) : Bool :=
  session.queue.worker = .finished

/-- Receives all published notices. -/
def receiveAll (session : Session τ) : List Notice × Session τ :=
  (session.unread, { session with received := session.state.published.length })

/-- Receives notices up to the first that matches. -/
def waitFor (session : Session τ) (isMatch : Notice → Bool) (milliseconds : Nat) :
    Except WaitError Notice × Session τ :=
  match session.unread.dropWhile fun notice => !isMatch notice with
  | notice :: later =>
    (.ok notice, { session with received := session.state.published.length - later.length })
  | [] =>
    (.error (if session.isClosed then .closed else .timedOut milliseconds),
      session.receiveAll.2)

end Any

/-! ## Sessions over a script -/

/-- Runs the script until it is suspended or ends. -/
def start (session : Session Interpreter) : Except InterpreterError (Session Interpreter) :=
  match session.state.target.run (Observer.noting session.state.debugger.stopsAt) [] with
  | .error error => .error error
  | .ok (interpreter, signals) =>
    .ok (signals.reverse.foldl signal
      { session with state := { session.state with target := interpreter } })

end Session

end ScriptDebugger
