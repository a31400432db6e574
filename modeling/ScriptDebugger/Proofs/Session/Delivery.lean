import ScriptDebugger.Debugging.Session

/-!
# What the worker of a session delivers

The queue of a session is at work, stopped or closed.  Each turn of its worker is described by an
equation, for a notice and for a request, and from these follows what is left when all that waits is
delivered.
-/

namespace ScriptDebugger

/-! ## Queues of sessions -/

/-- The queue of a session at work. -/
def workingQueue (pending : List Event) : EventQueue Role where
  pending := pending
  processors := [(1, .debugger), (2, .view)]
  lastNumber := 2
  worker := .running
  joinable := true

/-- The queue of a session whose debugger has let go of its target. -/
def stoppedQueue (pending : List Event) : EventQueue Role :=
  (workingQueue pending).stop

/-- The queue of a session after its worker has finished. -/
def closedQueue : EventQueue Role :=
  (workingQueue []).close

@[simp]
theorem post_workingQueue (pending : List Event) (event : Event) :
    (workingQueue pending).post event = workingQueue (pending ++ [event]) :=
  rfl

/-- Whether a notice tells of the run itself and does not answer a request. -/
def Notice.isLifecycle : Notice → Bool
  | .started | .suspended _ | .resumed _ | .terminated => true
  | .bindings _ | .evaluated _ _ | .memory _ _ => false

namespace SessionState

variable {τ : Type}

/-- Lets the session's view follow notices one after the other. -/
def followAll (state : SessionState τ) (notices : List Notice) : SessionState τ :=
  notices.foldl (fun state notice => state.follow (.notice notice)) state

@[simp]
theorem followAll_target (state : SessionState τ) (notices : List Notice) :
    (state.followAll notices).target = state.target := by
  induction notices generalizing state with
  | nil => rfl
  | cons notice rest inductionHypothesis => exact inductionHypothesis _

@[simp]
theorem followAll_debugger (state : SessionState τ) (notices : List Notice) :
    (state.followAll notices).debugger = state.debugger := by
  induction notices generalizing state with
  | nil => rfl
  | cons notice rest inductionHypothesis => exact inductionHypothesis _

@[simp]
theorem followAll_published (state : SessionState τ) (notices : List Notice) :
    (state.followAll notices).published = state.published ++ notices := by
  induction notices generalizing state with
  | nil => exact (List.append_nil _).symm
  | cons notice rest inductionHypothesis =>
      have later := inductionHypothesis (state.follow (.notice notice))
      simpa [followAll, follow] using later

end SessionState

/-! ## Answers -/

/-- How a debugger answers a request: by one notice at most, which does not tell of the run; it lets go
of its target for a disconnection only, and does not answer that. -/
structure Response.Answers {τ ε : Type} (response : Response τ ε) (request : Request) : Prop where
  few : response.notices.length ≤ 1
  answer : ∀ notice ∈ response.notices, notice.isLifecycle = false
  detaches : response.detaches = decide (request = .disconnect)
  silent : request = .disconnect → response.notices = []

theorem Response.Answers.unfinished
    {τ ε : Type} {response : Response τ ε} {request : Request}
    (answers : response.Answers request) :
    Notice.terminated ∉ response.notices := by
  intro member
  cases answers.answer .terminated member

section Turns

variable {τ ε : Type} [Target τ ε]

theorem Debugger.handleVariables_answers
    (debugger : Debugger) (target : τ) {request : Request} (kept : request ≠ .disconnect) :
    (debugger.handleVariables target).Answers request := by
  simp only [handleVariables]
  split <;> constructor <;> simp [Notice.isLifecycle, kept]

theorem Debugger.handle_answers (debugger : Debugger) (target : τ) (request : Request) :
    (debugger.handle target request).Answers request := by
  cases request with
  | resume kind =>
      simp only [handle, handleResume]
      split <;> constructor <;> simp
  | terminate =>
      simp only [handle, handleTerminate]
      split <;> constructor <;> simp
  | disconnect =>
      simp only [handle, handleDisconnect]
      split <;> constructor <;> simp
  | breakpoint marker change =>
      constructor <;> simp [handle]
  | fetchVariables => exact handleVariables_answers debugger target (by simp)
  | changeVariable name content =>
      simp only [handle, handleChange]
      split
      · exact handleVariables_answers debugger _ (by simp)
      · constructor <;> simp
  | evaluate evaluation =>
      simp only [handle, handleEvaluate]
      split <;> constructor <;> simp [Notice.isLifecycle]
  | fetchMemory start length =>
      simp only [handle, handleMemory]
      split <;> constructor <;> simp [Notice.isLifecycle]

/-! ## Turns of the worker -/

/-- The state after the debugger has handled a request and the view has followed it. -/
def SessionState.handled (state : SessionState τ) (request : Request) : SessionState τ :=
  let response : Response τ ε := state.debugger.handle state.target request
  { state with
    debugger := response.debugger
    target := response.target
    phase := state.phase.after (.request request) }

theorem turn_idle (state : SessionState τ) :
    EventQueue.turn sessionHandler (workingQueue [], state) = (workingQueue [], state) :=
  rfl

theorem turn_closedQueue (state : SessionState τ) :
    EventQueue.turn sessionHandler (closedQueue, state) = (closedQueue, state) :=
  rfl

theorem turn_notice
    {notice : Notice} (rest : List Event) (state : SessionState τ)
    (unfinished : notice ≠ .terminated) :
    EventQueue.turn sessionHandler (workingQueue (.notice notice :: rest), state) =
      (workingQueue rest, state.follow (.notice notice)) := by
  cases notice with
  | terminated => exact absurd rfl unfinished
  | started | suspended | resumed | bindings | evaluated | memory => rfl

theorem turn_terminated (rest : List Event) (state : SessionState τ) :
    EventQueue.turn sessionHandler (workingQueue (.notice .terminated :: rest), state) =
      (closedQueue, state.follow (.notice .terminated)) :=
  rfl

theorem post_notices
    (role : Role) (notices : List Notice) (pending : List Event) (state : SessionState τ) :
    (notices.map fun notice => (.post [.notice notice] : QueueOperation Role)).foldl
        (EventQueue.performInside sessionHandler role) (workingQueue pending, state) =
      (workingQueue (pending ++ notices.map .notice), state) := by
  induction notices generalizing pending with
  | nil => simp
  | cons notice rest inductionHypothesis =>
      have posted : EventQueue.performInside sessionHandler role (workingQueue pending, state)
          (.post [.notice notice]) = (workingQueue (pending ++ [.notice notice]), state) :=
        rfl
      rw [List.map_cons, List.foldl_cons, posted, inductionHypothesis]
      simp

/-- A session does not take note of errors. -/
theorem conclude_session
    (number : Nat) (event : Event) (result : Except String Unit) (state : SessionState τ) :
    sessionHandler.conclude number event result state = state := by
  cases result <;> rfl

theorem visit_debugger (request : Request) (rest : List Event) (state : SessionState τ) :
    EventQueue.visit sessionHandler (.request request) (workingQueue rest, state) (1, .debugger) =
      (if request = .disconnect then stoppedQueue rest
        else workingQueue (rest ++
          (state.debugger.handle state.target request).notices.map .notice),
        { state with
          debugger := (state.debugger.handle state.target request).debugger
          target := (state.debugger.handle state.target request).target }) := by
  have answers := state.debugger.handle_answers state.target request
  have performed : EventQueue.visit sessionHandler (.request request) (workingQueue rest, state)
      (1, .debugger) =
      (state.debugger.handle state.target request).operations.foldl
        (EventQueue.performInside sessionHandler .debugger)
        (workingQueue rest,
          { state with
            debugger := (state.debugger.handle state.target request).debugger
            target := (state.debugger.handle state.target request).target }) := by
    simp only [EventQueue.visit, conclude_session]
    rfl
  rw [performed, Response.operations, List.foldl_append, post_notices, answers.detaches]
  by_cases leaves : request = .disconnect
  · rw [answers.silent leaves]
    simp only [leaves, decide_true, if_true, List.map_nil, List.append_nil]
    rfl
  · simp only [leaves, decide_false, if_false, List.foldl_nil, Bool.false_eq_true]

theorem turn_request (request : Request) (rest : List Event) (state : SessionState τ) :
    EventQueue.turn sessionHandler (workingQueue (.request request :: rest), state) =
      (if request = .disconnect then stoppedQueue rest
        else workingQueue (rest ++
          (state.debugger.handle state.target request).notices.map .notice),
        state.handled request) := by
  change EventQueue.visit sessionHandler (.request request)
    (EventQueue.visit sessionHandler (.request request) (workingQueue rest, state) (1, .debugger))
    (2, .view) = _
  rw [visit_debugger]
  rfl

/-! ## Many turns -/

theorem turns_idle (count : Nat) (state : SessionState τ) :
    EventQueue.turns sessionHandler count (workingQueue [], state) = (workingQueue [], state) := by
  induction count with
  | zero => rfl
  | succ count inductionHypothesis => rw [EventQueue.turns, turn_idle, inductionHypothesis]

theorem turns_closedQueue (count : Nat) (state : SessionState τ) :
    EventQueue.turns sessionHandler count (closedQueue, state) = (closedQueue, state) := by
  induction count with
  | zero => rfl
  | succ count inductionHypothesis =>
      rw [EventQueue.turns, turn_closedQueue, inductionHypothesis]

theorem turns_notices
    {notices : List Notice} (rest : List Event) (count : Nat) (state : SessionState τ)
    (unfinished : Notice.terminated ∉ notices) :
    EventQueue.turns sessionHandler (notices.length + count)
        (workingQueue (notices.map .notice ++ rest), state) =
      EventQueue.turns sessionHandler count (workingQueue rest, state.followAll notices) := by
  induction notices generalizing state with
  | nil => simp [SessionState.followAll]
  | cons notice others inductionHypothesis =>
      have parts : Notice.terminated ≠ notice ∧ Notice.terminated ∉ others := by
        simpa using unfinished
      rw [List.length_cons, Nat.add_right_comm, EventQueue.turns, List.map_cons, List.cons_append,
        turn_notice _ _ parts.1.symm, inductionHypothesis _ parts.2]
      rfl

end Turns

/-! ## Delivering all that waits -/

namespace Session

variable {τ ε : Type} [Target τ ε]

theorem drain_idle {session : Session τ} (queue : session.queue = workingQueue []) :
    session.drain = session := by
  rw [drain, queue, turns_idle]
  simp [← queue]

theorem drain_closed {session : Session τ} (queue : session.queue = closedQueue) :
    session.drain = session := by
  rw [drain, queue, turns_closedQueue]
  simp [← queue]

theorem drain_notices
    {session : Session τ} {notices : List Notice}
    (queue : session.queue = workingQueue (notices.map .notice))
    (unfinished : Notice.terminated ∉ notices) :
    session.drain =
      { session with
        queue := workingQueue []
        state := session.state.followAll notices } := by
  have enough : 2 * (workingQueue (notices.map .notice)).pending.length + 1 =
      notices.length + (notices.length + 1) := by
    simp only [workingQueue, List.length_map]
    omega
  have delivered := turns_notices [] (notices.length + 1) session.state unfinished
  rw [List.append_nil] at delivered
  rw [drain, queue, enough, delivered, turns_idle]

theorem drain_terminated
    {session : Session τ} {notices : List Notice}
    (queue : session.queue = workingQueue ((notices ++ [Notice.terminated]).map .notice))
    (unfinished : Notice.terminated ∉ notices) :
    session.drain =
      { session with
        queue := closedQueue
        state := session.state.followAll (notices ++ [.terminated]) } := by
  have enough :
      2 * (workingQueue ((notices ++ [Notice.terminated]).map .notice)).pending.length + 1 =
        notices.length + (notices.length + 2 + 1) := by
    simp only [workingQueue, List.length_map, List.length_append, List.length_singleton]
    omega
  have delivered := turns_notices [.notice .terminated] (notices.length + 2 + 1) session.state
    unfinished
  rw [EventQueue.turns, turn_terminated, turns_closedQueue] at delivered
  rw [drain, queue, enough, List.map_append, List.map_singleton, delivered]
  simp [SessionState.followAll]

/-- What is left when the only thing that waits is a request. -/
theorem drain_request
    {session : Session τ} {request : Request}
    (queue : session.queue = workingQueue [.request request]) :
    session.drain =
      { session with
        queue := if request = .disconnect then closedQueue else workingQueue []
        state := (session.state.handled request).followAll
          (session.state.debugger.handle session.state.target request).notices } := by
  have answers := session.state.debugger.handle_answers session.state.target request
  have first : EventQueue.turns sessionHandler 3 (workingQueue [.request request], session.state) =
      EventQueue.turns sessionHandler 2
        (if request = .disconnect then stoppedQueue []
          else workingQueue
            ((session.state.debugger.handle session.state.target request).notices.map .notice),
          session.state.handled request) := by
    rw [EventQueue.turns, turn_request, List.nil_append]
  have three : 2 * (workingQueue [.request request]).pending.length + 1 = 3 := rfl
  rw [drain, queue, three, first]
  by_cases leaves : request = .disconnect
  · rw [if_pos leaves, if_pos leaves, answers.silent leaves]
    rfl
  · have unfinished := answers.unfinished
    have two : 2 = (session.state.debugger.handle session.state.target request).notices.length +
        (2 - (session.state.debugger.handle session.state.target request).notices.length) := by
      have few := answers.few
      omega
    have delivered := turns_notices []
      (2 - (session.state.debugger.handle session.state.target request).notices.length)
      (session.state.handled request) unfinished
    rw [← two, List.append_nil, turns_idle] at delivered
    rw [if_neg leaves, if_neg leaves, delivered]

/-! ## The beginning of a session -/

/-- The request for a breakpoint at a line. -/
def breakpointRequest (line : Nat) : Request :=
  .breakpoint (Marker.atLine line) .added

theorem queue_addBreakpoints
    (lines : List Nat) {session : Session τ} {pending : List Event}
    (queue : session.queue = workingQueue pending) :
    (lines.foldl addBreakpoint session).queue =
        workingQueue (pending ++ lines.map fun line => .request (breakpointRequest line)) ∧
      (lines.foldl addBreakpoint session).state = session.state := by
  induction lines generalizing session pending with
  | nil => simpa using queue
  | cons line rest inductionHypothesis =>
      have added : (session.addBreakpoint line).queue =
          workingQueue (pending ++ [.request (breakpointRequest line)]) := by
        simp only [addBreakpoint, submit, queue, post_workingQueue]
        rfl
      have later := inductionHypothesis added
      rw [List.append_assoc, List.singleton_append] at later
      exact later

theorem turns_breakpoints
    (lines : List Nat) (count : Nat) (state : SessionState τ) :
    EventQueue.turns sessionHandler (lines.length + count)
        (workingQueue (lines.map fun line => .request (breakpointRequest line)), state) =
      EventQueue.turns sessionHandler count
        (workingQueue [],
          { state with
            debugger := lines.foldl
              (fun debugger line => debugger.changeBreakpoint (Marker.atLine line) .added)
              state.debugger }) := by
  induction lines generalizing state with
  | nil => simp
  | cons line rest inductionHypothesis =>
      have handled : state.handled (breakpointRequest line) =
          { state with
            debugger := state.debugger.changeBreakpoint (Marker.atLine line) .added } :=
        rfl
      have unanswered : (state.debugger.handle state.target (breakpointRequest line)).notices = [] :=
        rfl
      have kept : ¬ breakpointRequest line = .disconnect := by simp [breakpointRequest]
      rw [List.length_cons, Nat.add_right_comm, EventQueue.turns, List.map_cons, turn_request,
        if_neg kept, unanswered, List.map_nil, List.append_nil, handled, inductionHypothesis]
      rfl

/-- A fresh session waits for requests, with its breakpoints in place and its target attached. -/
theorem create_eq (target : τ) (breakpoints : List Nat) :
    (create target breakpoints).queue = workingQueue [] ∧
      (create target breakpoints).state =
        { target := Target.setAttached true target
          debugger := breakpoints.foldl
            (fun debugger line => debugger.changeBreakpoint (Marker.atLine line) .added) {} } := by
  let fresh : Session τ := { queue := workingQueue [], state := { target := target } }
  have empty : fresh.queue = workingQueue [] := rfl
  have asked := queue_addBreakpoints breakpoints empty
  rw [List.nil_append] at asked
  have enough : 2 * (workingQueue (breakpoints.map fun line =>
      .request (breakpointRequest line))).pending.length + 1 =
        breakpoints.length + (breakpoints.length + 1) := by
    simp only [workingQueue, List.length_map]
    omega
  have drained : (breakpoints.foldl addBreakpoint fresh).drain =
      { breakpoints.foldl addBreakpoint fresh with
        queue := workingQueue []
        state := { target := target
                   debugger := breakpoints.foldl
                     (fun debugger line => debugger.changeBreakpoint (Marker.atLine line) .added)
                     {} } } := by
    rw [drain, asked.1, asked.2, enough, turns_breakpoints, turns_idle]
  constructor
  · change (breakpoints.foldl addBreakpoint fresh).drain.queue = _
    rw [drained]
  · change { (breakpoints.foldl addBreakpoint fresh).drain.state with
      target := Target.setAttached true
        (breakpoints.foldl addBreakpoint fresh).drain.state.target } = _
    rw [drained]

end Session

end ScriptDebugger
