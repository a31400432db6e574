import ScriptDebugger.Debugging.Session

/-!
# The threads of a session

A session over a script has two threads: the worker of its queue, which handles the requests, and the
thread that runs the script. They share the script's state, the debugger and the queue, and each takes
hold of them for one access at a time. A request is several accesses, and so is each line of the
script; in between the other thread does what it likes.
-/

namespace ScriptDebugger

/-! ## Requests -/

/-- One access of a debugger to what it shares with the thread of the script. -/
inductive Access where
  | setStepping (stepping : Bool)
  | changeBreakpoint (marker : Marker) (change : BreakpointChange)
  | resume
  | terminate
  | detach
  | stop
  | setVariable (name content : String)
  | readVariables
  | evaluate (evaluation : Evaluation)
  | readMemory (start : Int) (length : Nat)
  | post (notice : Notice)
  deriving DecidableEq

/-- The accesses by which a request is handled. What is read is posted by one more. -/
def Request.accesses : Request → List Access
  | .resume kind => [.setStepping (kind = .stepOver), .resume]
  | .terminate => [.terminate]
  | .disconnect => [.detach, .stop, .resume]
  | .breakpoint marker change => [.changeBreakpoint marker change]
  | .fetchVariables => [.readVariables]
  | .changeVariable name content => [.setVariable name content, .readVariables]
  | .evaluate evaluation => [.evaluate evaluation]
  | .fetchMemory start length => [.readMemory start length]

/-- The accesses by which a debugger handles an event. It ignores the notices, which are its own. -/
def Event.accesses : Event → List Access
  | .notice _ => []
  | .request asked => asked.accesses

namespace Session

/-- The session with its script in another state. -/
def withTarget (session : Session Interpreter) (target : Interpreter) : Session Interpreter :=
  { session with state := { session.state with target := target } }

/-- The session with its debugger in another state. -/
def withDebugger (session : Session Interpreter) (debugger : Debugger) : Session Interpreter :=
  { session with state := { session.state with debugger := debugger } }

/-- The session after an access, with the accesses that are still to be made. After one that fails there
are none. -/
def access (session : Session Interpreter) (later : List Access) :
    Access → Session Interpreter × List Access
  | .setStepping stepping =>
    (session.withDebugger { session.state.debugger with stepping := stepping }, later)
  | .changeBreakpoint marker change =>
    (session.withDebugger (session.state.debugger.changeBreakpoint marker change), later)
  | .resume => (session.withTarget session.state.target.resume, later)
  | .terminate =>
    match session.state.target.terminate with
    | .ok target => (session.withTarget target, later)
    | .error _ => (session, [])
  | .detach => (session.withTarget { session.state.target with attached := false }, later)
  | .stop => ({ session with queue := session.queue.stop }, later)
  | .setVariable name content =>
    match session.state.target.setVariable name content with
    | .ok target => (session.withTarget target, later)
    | .error _ => (session, [])
  | .readVariables => (session, .post (.bindings session.state.target.bindings) :: later)
  | .evaluate evaluation =>
    match session.state.target.evaluate evaluation.expression with
    | .ok value => (session, .post (.evaluated evaluation value) :: later)
    | .error _ => (session, [])
  | .readMemory start length =>
    (session, .post (.memory start (readMemory session.state.target.memory start length)) :: later)
  | .post notice => ({ session with queue := session.queue.post (.notice notice) }, later)

end Session

/-! ## Where the threads are -/

/-- Where the worker of a session is. -/
inductive WorkerStage where
  /-- Before the next event. -/
  | waiting
  /-- In the debugger, which handles an event and still makes some accesses. -/
  | serving (event : Event) (accesses : List Access)
  /-- After the debugger, before the session's view. -/
  | showing (event : Event)
  /-- After the last event, before what waits is discarded. -/
  | leaving
  deriving DecidableEq

/-- Where the thread that runs a script is. -/
inductive ScriptStage where
  /-- Not in the run, which is not started or has ended. -/
  | outside
  /-- Started. Next it looks whether a debugger is attached. -/
  | loading
  /-- Told by a debugger to suspend itself, which it has not done yet. -/
  | entering (line : Option Nat)
  /-- With a signal for the debugger that it has found. -/
  | telling (signal : Signal) (next : ScriptStage)
  /-- Suspended. -/
  | waiting (line : Option Nat)
  /-- Resumed. Next it looks whether a debugger is attached. -/
  | resuming (line : Option Nat)
  /-- Before a line. Next it looks whether it is to end. -/
  | before (number : Nat)
  /-- Next it looks whether a debugger is attached. -/
  | asking (number : Nat)
  /-- With a debugger that it has found. Next it asks whether to stop. -/
  | testing (number : Nat)
  | executing (number : Nat)
  /-- After the last line. -/
  | ending
  /-- Ended. Next it takes the debugger away, to tell it of the end. -/
  | detaching
  deriving DecidableEq

/-- A session in the middle of whatever its threads do. -/
structure Threads where
  session : Session Interpreter
  worker : WorkerStage := .waiting
  script : ScriptStage := .outside

namespace Threads

/-- A session over a script before anything happens. -/
def opened (source : String) (held : Bool) (breakpoints : List Nat) : Threads where
  session := .create (.ofSource source held) breakpoints

/-! ## Steps -/

/-- The next step of the worker. -/
def advanceWorker (threads : Threads) : Threads :=
  let session := threads.session
  match threads.worker with
  | .waiting =>
    if session.queue.worker = .running then
      if session.queue.stopped then { threads with worker := .leaving }
      else
        match session.queue.pending with
        | [] => threads
        | event :: rest =>
          { threads with
            session := { session with queue := { session.queue with pending := rest } }
            worker := .serving event event.accesses }
    else threads
  | .serving event [] => { threads with worker := .showing event }
  | .serving event (access :: later) =>
    { threads with
      session := (session.access later access).1
      worker := .serving event (session.access later access).2 }
  | .showing event =>
    if event.isFinal then
      { threads with
        session := { session with queue := session.queue.stop, state := session.state.follow event }
        worker := .leaving }
    else
      { threads with
        session := { session with state := session.state.follow event }
        worker := .waiting }
  | .leaving =>
    { threads with session := { session with queue := session.queue.close }, worker := .waiting }

/-- What a suspension is told as. -/
def suspensionSignal : Option Nat → Signal
  | none => .loaded
  | some line => .suspended line

/-- Where a resumed script goes on. -/
def afterSuspension : Option Nat → ScriptStage
  | none => .before 1
  | some line => .executing line

/-- Where a suspended script goes on that is to end. -/
def afterQuitting : Option Nat → ScriptStage
  | none => .before 1
  | some _ => .ending

/-- The next step of the thread that runs the script. -/
def advanceScript (threads : Threads) : Threads :=
  let session := threads.session
  let target := session.state.target
  match threads.script with
  | .outside => threads
  | .loading =>
    { threads with
      script :=
        if target.attached then
          if target.suspendOnLoad then .entering none else .telling .loaded (.before 1)
        else .before 1 }
  | .entering line =>
    { threads with
      session := session.withTarget (target.suspendedAt line)
      script := .telling (suspensionSignal line) (.waiting line) }
  | .telling signal next => { threads with session := session.signal signal, script := next }
  | .waiting line =>
    if target.terminateRequested then { threads with script := afterQuitting line }
    else if target.resumeRequested then
      { threads with
        session := session.withTarget { target with status := .running, resumeRequested := false }
        script := .resuming line }
    else threads
  | .resuming line =>
    { threads with
      script :=
        if target.attached then .telling .resumed (afterSuspension line)
        else afterSuspension line }
  | .before number =>
    { threads with
      script :=
        if number ≤ target.lineCount ∧ target.terminateRequested = false then .asking number
        else .ending }
  | .asking number =>
    { threads with script := if target.attached then .testing number else .executing number }
  | .testing number =>
    { threads with
      script :=
        if session.state.debugger.stopsAt number then .entering (some number)
        else .executing number }
  | .executing number =>
    { threads with
      session := session.withTarget ((target.line? number).elim target target.execute)
      script := .before (number + 1) }
  | .ending =>
    { threads with
      session := session.withTarget { target with status := .terminated }
      script := .detaching }
  | .detaching =>
    { threads with
      session := session.withTarget { target with attached := false }
      script := if target.attached then .telling .terminated .outside else .outside }

/-- Who acts next. -/
inductive Turn where
  /-- Somebody submits a request. -/
  | submit (request : Request)
  /-- Somebody tries to start the script. -/
  | start
  | worker
  | script
  deriving DecidableEq

/-- The threads after somebody has acted. -/
def step (threads : Threads) : Turn → Threads
  | .submit request => { threads with session := threads.session.submit request }
  | .start =>
    match threads.session.state.target.start with
    | .ok started =>
      { threads with session := threads.session.withTarget started, script := .loading }
    | .error _ => threads
  | .worker => threads.advanceWorker
  | .script => threads.advanceScript

/-- The threads after turns in this order. -/
def run (threads : Threads) (schedule : List Turn) : Threads :=
  schedule.foldl step threads

/-- The request whose handling is completed in a turn. -/
def handles? (threads : Threads) : Turn → Option Request
  | .worker =>
    match threads.worker with
    | .showing (.request request) => some request
    | _ => none
  | .submit _ | .start | .script => none

/-- The requests handled in turns, in this order. -/
def handledRequests (threads : Threads) : List Turn → List Request
  | [] => []
  | turn :: later => (threads.handles? turn).toList ++ (threads.step turn).handledRequests later

/-- Whether nothing moves any more unless somebody acts from outside. -/
def Settled (threads : Threads) : Prop :=
  threads.step .worker = threads ∧ threads.step .script = threads

end Threads

end ScriptDebugger
