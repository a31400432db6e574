import ScriptDebugger.Proofs.Interpreter.Moves
import ScriptDebugger.Proofs.Session.Delivery

/-!
# Actions on a session

Whatever happens to a session over a script is a sequence of four actions: a request is submitted, the
script is started, the worker takes a turn, or the script goes on.  One relation says what an action
can change; what it keeps holds of every session that actions lead to.
-/

namespace ScriptDebugger

/-! ## What requests do to a script and its debugger -/

/-- The script after a request. -/
def Interpreter.after (interpreter : Interpreter) : Request → Interpreter
  | .resume _ => interpreter.resume
  | .terminate => (interpreter.attempt interpreter.terminate).1
  | .disconnect => { interpreter with attached := false }.resume
  | .changeVariable name content =>
    (interpreter.attempt (interpreter.setVariable name content)).1
  | .breakpoint _ _ | .fetchVariables | .evaluate _ | .fetchMemory _ _ => interpreter

/-- The debugger after a request. -/
def Debugger.after (debugger : Debugger) : Request → Debugger
  | .resume kind => { debugger with stepping := decide (kind = .stepOver) }
  | .breakpoint marker change => debugger.changeBreakpoint marker change
  | .terminate | .disconnect | .changeVariable _ _ | .fetchVariables | .evaluate _
  | .fetchMemory _ _ => debugger

theorem Debugger.handle_interpreter
    (debugger : Debugger) (interpreter : Interpreter) (request : Request) :
    (debugger.handle interpreter request).debugger = debugger.after request ∧
      (debugger.handle interpreter request).target = interpreter.after request := by
  cases request with
  | resume kind => exact ⟨rfl, rfl⟩
  | breakpoint marker change => exact ⟨rfl, rfl⟩
  | fetchVariables => exact ⟨rfl, rfl⟩
  | disconnect => exact ⟨rfl, rfl⟩
  | fetchMemory start length => exact ⟨rfl, rfl⟩
  | terminate =>
      simp only [handle, handleTerminate, Target.terminate, Interpreter.attempt, Interpreter.after,
        Debugger.after]
      cases interpreter.terminate <;> exact ⟨rfl, rfl⟩
  | changeVariable name content =>
      simp only [handle, handleChange, Target.setVariable, Interpreter.attempt, Interpreter.after,
        Debugger.after]
      cases interpreter.setVariable name content <;> exact ⟨rfl, rfl⟩
  | evaluate evaluation =>
      simp only [handle, handleEvaluate, Target.evaluate]
      cases interpreter.evaluate evaluation.expression <;> exact ⟨rfl, rfl⟩

theorem SessionState.handled_eq (state : SessionState Interpreter) (request : Request) :
    state.handled request =
      { state with
        debugger := state.debugger.after request
        target := state.target.after request
        phase := state.phase.after (.request request) } := by
  obtain ⟨debugger, target⟩ := state.debugger.handle_interpreter state.target request
  simp only [handled, debugger, target]

namespace Interpreter

theorem resume_frame (interpreter : Interpreter) :
    interpreter.resume =
      { interpreter with resumeRequested := interpreter.resume.resumeRequested } := by
  unfold resume
  split <;> rfl

theorem terminate_frame (interpreter : Interpreter) :
    (interpreter.attempt interpreter.terminate).1 =
      { interpreter with
        terminateRequested :=
          (interpreter.attempt interpreter.terminate).1.terminateRequested } := by
  unfold terminate
  split <;> rfl

theorem setVariable_frame (interpreter : Interpreter) (name content : String) :
    (interpreter.attempt (interpreter.setVariable name content)).1 =
      { interpreter with
        bindings := (interpreter.attempt (interpreter.setVariable name content)).1.bindings } := by
  unfold setVariable
  split <;> rfl

/-- A request changes neither the script nor how far it has come. -/
theorem after_frame (interpreter : Interpreter) (request : Request) :
    interpreter.after request =
      { interpreter with
        bindings := (interpreter.after request).bindings
        resumeRequested := (interpreter.after request).resumeRequested
        terminateRequested := (interpreter.after request).terminateRequested
        attached := interpreter.attached && decide (request ≠ .disconnect) } := by
  cases request with
  | resume kind =>
      simp only [after]
      rw [resume_frame]
      simp
  | disconnect =>
      simp only [after]
      rw [resume_frame]
      simp
  | breakpoint marker change => simp [after]
  | fetchVariables => simp [after]
  | evaluate evaluation => simp [after]
  | fetchMemory start length => simp [after]
  | terminate =>
      simp only [after]
      rw [terminate_frame]
      simp
  | changeVariable name content =>
      simp only [after]
      rw [setVariable_frame]
      simp

section After

variable (interpreter : Interpreter) (request : Request)

@[simp]
theorem after_script : (interpreter.after request).script = interpreter.script := by
  rw [after_frame]

@[simp]
theorem after_suspendOnLoad :
    (interpreter.after request).suspendOnLoad = interpreter.suspendOnLoad := by
  rw [after_frame]

@[simp]
theorem after_status : (interpreter.after request).status = interpreter.status := by
  rw [after_frame]

theorem after_attached :
    (interpreter.after request).attached =
      (interpreter.attached && decide (request ≠ .disconnect)) := by
  rw [after_frame]

end After

theorem resume_of_notStarted
    {interpreter : Interpreter} (unstarted : interpreter.status = .notStarted) :
    interpreter.resume = interpreter := by
  rw [resume, unstarted]

theorem after_resumeRequested_of_notStarted
    {interpreter : Interpreter} (request : Request)
    (unstarted : interpreter.status = .notStarted) :
    (interpreter.after request).resumeRequested = interpreter.resumeRequested := by
  cases request with
  | resume kind => simp only [after, resume_of_notStarted unstarted]
  | disconnect =>
      have unstartedNow : { interpreter with attached := false }.status = .notStarted := unstarted
      simp only [after, resume_of_notStarted unstartedNow]
  | breakpoint | fetchVariables | evaluate | fetchMemory => rfl
  | terminate => rw [after, terminate_frame]
  | changeVariable name content => rw [after, setVariable_frame]

theorem Paused.after
    {interpreter : Interpreter} (paused : interpreter.Paused) (request : Request) :
    (interpreter.after request).Paused where
  notRunning := by simpa using paused.notRunning
  place := by simpa using paused.place
  quiet := by
    intro unstarted
    rw [after_status] at unstarted
    rw [after_resumeRequested_of_notStarted request unstarted]
    exact paused.quiet unstarted

end Interpreter

/-- The cause that a debugger gives for a resumption. -/
def Debugger.cause (debugger : Debugger) : ResumeCause :=
  if debugger.stepping then .stepping else .continue

theorem Debugger.notice_eq_terminated
    {debugger : Debugger} {signal : Signal} (told : debugger.notice signal = .terminated) :
    signal = .terminated := by
  cases signal <;> simp [Debugger.notice] at told ⊢

/-! ## Actions -/

namespace Session

/-- What happens to a session next. -/
inductive Action where
  | submit (request : Request)
  | start
  /-- A turn of the worker. -/
  | deliver
  /-- The script goes on as far as it was asked to. -/
  | proceed
  deriving DecidableEq

/-- The session after an action.  A start that is refused changes nothing. -/
def act (session : Session Interpreter) : Action → Session Interpreter
  | .submit request => session.submit request
  | .start =>
    match session.start with
    | .ok started => started
    | .error _ => session
  | .deliver =>
    match EventQueue.turn sessionHandler (session.queue, session.state) with
    | (queue, state) => { session with queue := queue, state := state }
  | .proceed => session.proceed

/-- The request that the debugger handles in an action. -/
def handles? (session : Session Interpreter) : Action → Option Request
  | .deliver =>
    match session.queue.worker, session.queue.stopped, session.queue.pending with
    | .running, false, .request request :: _ => some request
    | _, _, _ => none
  | .submit _ | .start | .proceed => none

/-- The session after actions. -/
def acts (session : Session Interpreter) (actions : List Action) : Session Interpreter :=
  actions.foldl act session

theorem acts_append (session : Session Interpreter) (first second : List Action) :
    session.acts (first ++ second) = (session.acts first).acts second :=
  List.foldl_append

/-- The requests that the debugger handles in actions, in this order. -/
def handledRequests (session : Session Interpreter) : List Action → List Request
  | [] => []
  | action :: later =>
    (session.handles? action).toList ++ (session.act action).handledRequests later

theorem signals_workingQueue
    (signals : List Signal) {session : Session Interpreter} {pending : List Event}
    (queue : session.queue = workingQueue pending) :
    signals.foldl signal session =
      { session with
        queue := workingQueue
          (pending ++ (signals.map session.state.debugger.notice).map .notice) } := by
  induction signals generalizing session pending with
  | nil => simp [← queue]
  | cons first rest inductionHypothesis =>
      have posted : (session.signal first).queue =
          workingQueue (pending ++ [.notice (session.state.debugger.notice first)]) := by
        rw [signal, queue, post_workingQueue]
      rw [List.foldl_cons, inductionHypothesis posted, List.append_assoc]
      rfl

/-- `Change session handled changed` means that an action can lead from one session to the other, the
debugger handling the request `handled` if there is one. -/
inductive Change (session : Session Interpreter) : Option Request → Session Interpreter → Prop
  | stays : Change session none session
  | submits {pending : List Event} (request : Request) :
      session.queue = workingQueue pending →
      Change session none { session with queue := workingQueue (pending ++ [.request request]) }
  | moves {pending : List Event} {moved : Interpreter} {signals : List Signal} :
      session.queue = workingQueue pending →
      Interpreter.Move (fun line => session.state.debugger.stopsAt line = true)
        session.state.target moved signals →
      Change session none
        { session with
          queue := workingQueue
            (pending ++ (signals.map session.state.debugger.notice).map .notice)
          state := { session.state with target := moved } }
  | tells {notice : Notice} {rest : List Event} :
      session.queue = workingQueue (.notice notice :: rest) →
      notice ≠ .terminated →
      Change session none
        { session with
          queue := workingQueue rest
          state := session.state.follow (.notice notice) }
  | ends {rest : List Event} :
      session.queue = workingQueue (.notice .terminated :: rest) →
      Change session none
        { session with
          queue := closedQueue
          state := session.state.follow (.notice .terminated) }
  | handles {request : Request} {rest : List Event} :
      session.queue = workingQueue (.request request :: rest) →
      request ≠ .disconnect →
      Change session (some request)
        { session with
          queue := workingQueue (rest ++
            (session.state.debugger.handle session.state.target request).notices.map .notice)
          state := session.state.handled request }
  | leaves {rest : List Event} :
      session.queue = workingQueue (.request .disconnect :: rest) →
      Change session (some .disconnect)
        { session with
          queue := stoppedQueue rest
          state := session.state.handled .disconnect }
  | movesAlone {moved : Interpreter} :
      session.queue.stopped = true →
      Interpreter.Move (fun line => session.state.debugger.stopsAt line = true)
        session.state.target moved [] →
      Change session none { session with state := { session.state with target := moved } }
  | closes :
      session.queue.stopped = true →
      Change session none { session with queue := session.queue.close }

/-- While a queue is at work, a debugger is attached to the script until the script ends, and the end is
not told before. -/
structure Serving (target : Interpreter) (pending : List Event) : Prop where
  attached : target.attached = true ↔ target.status ≠ .terminated
  ended : .notice .terminated ∈ pending → target.status = .terminated

/-- What holds of a session over a script whatever happens to it. -/
structure Coherent (script : List String) (held : Bool) (session : Session Interpreter) : Prop where
  script : session.state.target.script = script
  held : session.state.target.suspendOnLoad = held
  paused : session.state.target.Paused
  queue :
    (∃ pending, session.queue = workingQueue pending ∧ Serving session.state.target pending) ∨
      (session.queue.stopped = true ∧ session.state.target.attached = false)

section Coherent

variable {script : List String} {held : Bool} {session : Session Interpreter}

theorem Coherent.serving
    (coherent : session.Coherent script held) {pending : List Event}
    (queue : session.queue = workingQueue pending) :
    Serving session.state.target pending := by
  rcases coherent.queue with ⟨others, queueNow, serving⟩ | ⟨stopped, _⟩
  · have same : pending = others := congrArg EventQueue.pending (queue.symm.trans queueNow)
    exact same ▸ serving
  · rw [queue] at stopped
    cases stopped

theorem Coherent.detached
    (coherent : session.Coherent script held) (stopped : session.queue.stopped = true) :
    session.state.target.attached = false := by
  rcases coherent.queue with ⟨pending, queue, _⟩ | ⟨_, detached⟩
  · rw [queue] at stopped
    cases stopped
  · exact detached

theorem Coherent.change_moves
    (coherent : session.Coherent script held) {moved : Interpreter} {signals : List Signal}
    (move : Interpreter.Move (fun line => session.state.debugger.stopsAt line = true)
      session.state.target moved signals) :
    Change session none
      (signals.foldl signal { session with state := { session.state with target := moved } }) := by
  rcases coherent.queue with ⟨pending, queue, _⟩ | ⟨stopped, detached⟩
  · have queueNow : { session with state := { session.state with target := moved } }.queue =
        workingQueue pending := queue
    rw [signals_workingQueue signals queueNow]
    exact .moves queue move
  · obtain ⟨rfl, _⟩ := move.silent detached
    exact .movesAlone stopped move

theorem Coherent.change_submit (coherent : session.Coherent script held) (request : Request) :
    Change session none (session.submit request) := by
  rcases coherent.queue with ⟨pending, queue, _⟩ | ⟨stopped, _⟩
  · rw [submit, queue, post_workingQueue]
    exact .submits request queue
  · have refused : session.submit request = session := by
      simp [submit, EventQueue.post, stopped]
    rw [refused]
    exact .stays

theorem Coherent.change_deliver (coherent : session.Coherent script held) :
    Change session (session.handles? .deliver) (session.act .deliver) := by
  rcases coherent.queue with ⟨pending, queue, _⟩ | ⟨stopped, _⟩
  · cases pending with
    | nil =>
        have none : session.handles? .deliver = none := by
          rw [handles?, queue]
          rfl
        have idle : session.act .deliver = session := by
          rw [act, queue, turn_idle]
          simp only [← queue]
        rw [none, idle]
        exact .stays
    | cons event rest =>
        rw [handles?, act, queue]
        cases event with
        | notice notice =>
            by_cases final : notice = .terminated
            · subst final
              exact .ends queue
            · rw [turn_notice rest _ final]
              exact .tells queue final
        | request request =>
            rw [turn_request]
            by_cases leaving : request = .disconnect
            · subst leaving
              rw [if_pos rfl]
              exact .leaves queue
            · rw [if_neg leaving]
              exact .handles queue leaving
  · cases worker : session.queue.worker with
    | running =>
        have closed : session.act .deliver = { session with queue := session.queue.close } := by
          simp [act, EventQueue.turn, worker, stopped]
        have none : session.handles? .deliver = none := by simp [handles?, stopped]
        rw [closed, none]
        exact .closes stopped
    | notStarted | finished =>
        have idle : session.act .deliver = session := by simp [act, EventQueue.turn, worker]
        have none : session.handles? .deliver = none := by simp [handles?, stopped]
        rw [idle, none]
        exact .stays

/-- Every action on a coherent session is one of these changes. -/
theorem Coherent.change (coherent : session.Coherent script held) (action : Action) :
    Change session (session.handles? action) (session.act action) := by
  cases action with
  | submit request => exact coherent.change_submit request
  | deliver => exact coherent.change_deliver
  | start =>
      by_cases unstarted : session.state.target.status = .notStarted
      · obtain ⟨moved, signals, ran, move, _⟩ :=
          Interpreter.run_moves session.state.debugger.stopsAt coherent.paused unstarted
        simp only [handles?, act, start, ran, List.reverse_reverse]
        exact coherent.change_moves move
      · obtain ⟨error, refused⟩ :=
          Interpreter.run_of_started (Observer.noting session.state.debugger.stopsAt) [] unstarted
        simp only [handles?, act, start, refused]
        exact .stays
  | proceed =>
      obtain ⟨moved, signals, ran, move, _⟩ :=
        Interpreter.proceed_moves session.state.debugger.stopsAt coherent.paused
      simp only [handles?, act, Session.proceed, Target.proceed, ran, List.reverse_reverse]
      exact coherent.change_moves move

theorem Serving.submit
    {target : Interpreter} {pending : List Event} (serving : Serving target pending)
    (request : Request) :
    Serving target (pending ++ [.request request]) where
  attached := serving.attached
  ended := by simpa using serving.ended

theorem Serving.move
    {target moved : Interpreter} {pending : List Event} {stops : Nat → Prop}
    {signals : List Signal} (serving : Serving target pending) (debugger : Debugger)
    (move : Interpreter.Move stops target moved signals) :
    Serving moved (pending ++ (signals.map debugger.notice).map .notice) where
  attached := move.attached serving.attached
  ended := by
    intro told
    rcases List.mem_append.mp told with earlier | now
    · have ended := serving.ended earlier
      rw [move.stays ended]
      exact ended
    · obtain ⟨notice, noticed, same⟩ := List.mem_map.mp now
      obtain ⟨signal, member, rfl⟩ := List.mem_map.mp noticed
      have final := Debugger.notice_eq_terminated (Event.notice.inj same)
      exact move.ended (final ▸ member)

theorem Serving.tail
    {target : Interpreter} {event : Event} {rest : List Event}
    (serving : Serving target (event :: rest)) :
    Serving target rest where
  attached := serving.attached
  ended := fun told => serving.ended (List.mem_cons_of_mem _ told)

theorem Serving.after
    {target : Interpreter} {pending : List Event} {request : Request}
    (serving : Serving target pending) (debugger : Debugger) (kept : request ≠ .disconnect) :
    Serving (target.after request)
      (pending ++ (debugger.handle target request).notices.map .notice) where
  attached := by simpa [Interpreter.after_attached, kept] using serving.attached
  ended := by
    intro told
    rw [Interpreter.after_status]
    rcases List.mem_append.mp told with earlier | now
    · exact serving.ended earlier
    · obtain ⟨notice, member, same⟩ := List.mem_map.mp now
      have unfinished := (debugger.handle_answers target request).unfinished
      exact absurd (Event.notice.inj same ▸ member) unfinished

/-- What holds of a coherent session holds after every change. -/
theorem Change.coherent
    {handled : Option Request} {changed : Session Interpreter}
    (change : Change session handled changed) (coherent : session.Coherent script held) :
    changed.Coherent script held := by
  cases change with
  | stays => exact coherent
  | submits request queue =>
      have serving := (coherent.serving queue).submit request
      exact ⟨coherent.script, coherent.held, coherent.paused, .inl ⟨_, rfl, serving⟩⟩
  | moves queue move =>
      have serving := (coherent.serving queue).move session.state.debugger move
      exact ⟨move.script.trans coherent.script, move.suspendOnLoad.trans coherent.held,
        move.paused coherent.paused, .inl ⟨_, rfl, serving⟩⟩
  | tells queue unfinished =>
      have serving := (coherent.serving queue).tail
      exact ⟨coherent.script, coherent.held, coherent.paused, .inl ⟨_, rfl, serving⟩⟩
  | ends queue =>
      -- Only a script that has ended tells so, and nobody is attached to it any more.
      have serving := coherent.serving queue
      have ended := serving.ended List.mem_cons_self
      have detached : session.state.target.attached = false := by
        simpa [ended] using serving.attached
      exact ⟨coherent.script, coherent.held, coherent.paused, .inr ⟨rfl, detached⟩⟩
  | @handles request rest queue kept =>
      have serving := (coherent.serving queue).tail.after session.state.debugger kept
      rw [SessionState.handled_eq]
      refine ⟨?_, ?_, coherent.paused.after request, .inl ⟨_, rfl, serving⟩⟩
      · simpa using coherent.script
      · simpa using coherent.held
  | leaves queue =>
      rw [SessionState.handled_eq]
      refine ⟨?_, ?_, coherent.paused.after .disconnect, .inr ⟨rfl, ?_⟩⟩
      · simpa using coherent.script
      · simpa using coherent.held
      · simp [Interpreter.after_attached]
  | movesAlone stopped move =>
      have detached := coherent.detached stopped
      exact ⟨move.script.trans coherent.script, move.suspendOnLoad.trans coherent.held,
        move.paused coherent.paused, .inr ⟨stopped, (move.silent detached).2⟩⟩
  | closes stopped =>
      have detached := coherent.detached stopped
      exact ⟨coherent.script, coherent.held, coherent.paused, .inr ⟨rfl, detached⟩⟩

theorem Coherent.act (coherent : session.Coherent script held) (action : Action) :
    (session.act action).Coherent script held :=
  (coherent.change action).coherent coherent

theorem Coherent.acts (coherent : session.Coherent script held) (actions : List Action) :
    (session.acts actions).Coherent script held := by
  induction actions generalizing session with
  | nil => exact coherent
  | cons action later inductionHypothesis => exact inductionHypothesis (coherent.act action)

end Coherent

theorem create_coherent (source : String) (held : Bool) (breakpoints : List Nat) :
    (create (Interpreter.ofSource source held) breakpoints).Coherent (Text.lines source) held := by
  obtain ⟨queue, state⟩ := create_eq (Interpreter.ofSource source held) breakpoints
  refine ⟨?_, ?_, ?_, .inl ⟨[], queue, ?_, ?_⟩⟩
  all_goals simp only [state]
  · rfl
  · rfl
  · constructor <;> simp [Target.setAttached, Interpreter.ofSource]
  · simp [Target.setAttached, Interpreter.ofSource]
  · simp

/-! ## Settling is a sequence of actions -/

theorem turns_eq_acts (session : Session Interpreter) (count : Nat) :
    (match EventQueue.turns sessionHandler count (session.queue, session.state) with
      | (queue, state) => { session with queue := queue, state := state }) =
      session.acts (List.replicate count .deliver) := by
  induction count generalizing session with
  | zero => rfl
  | succ count inductionHypothesis =>
      rw [List.replicate_succ]
      exact inductionHypothesis (session.act .deliver)

theorem drain_eq_acts (session : Session Interpreter) :
    session.drain =
      session.acts (List.replicate (2 * session.queue.pending.length + 1) .deliver) :=
  turns_eq_acts session (2 * session.queue.pending.length + 1)

theorem settle_eq_acts (session : Session Interpreter) :
    ∃ actions, session.settle = session.acts actions := by
  have delivered := session.drain_eq_acts
  have told := session.drain.proceed.drain_eq_acts
  refine ⟨List.replicate (2 * session.queue.pending.length + 1) .deliver ++ .proceed ::
    List.replicate (2 * session.drain.proceed.queue.pending.length + 1) .deliver, ?_⟩
  rw [acts_append, ← delivered]
  exact told

theorem Coherent.settle
    {script : List String} {held : Bool} {session : Session Interpreter}
    (coherent : session.Coherent script held) :
    session.settle.Coherent script held := by
  obtain ⟨actions, same⟩ := session.settle_eq_acts
  rw [same]
  exact coherent.acts actions

end Session

end ScriptDebugger
