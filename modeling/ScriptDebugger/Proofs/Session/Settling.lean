import ScriptDebugger.Proofs.Session.Actions

/-!
# Settling

When a request is submitted to a session in which nothing waits, or its script is started, and the
session is settled, the request is handled, the script makes one move, and all notices are published.
-/

namespace ScriptDebugger

namespace Session

/-- Nothing waits in the queue of the session, which is at work or closed. -/
def Idle (session : Session Interpreter) : Prop :=
  session.queue = workingQueue [] ∨ session.queue = closedQueue

/-- What a settled session consists of. -/
structure Settles (session : Session Interpreter) (queue : EventQueue Role)
    (target : Interpreter) (debugger : Debugger) (published : List Notice) : Prop where
  queue : session.queue = queue
  target : session.state.target = target
  debugger : session.state.debugger = debugger
  published : session.state.published = published

section Settling

variable {script : List String} {held : Bool} {session : Session Interpreter}

theorem drain_of_idle (idle : session.Idle) : session.drain = session := by
  rcases idle with working | closed
  · exact drain_idle working
  · exact drain_closed closed

theorem drain_told
    {notices : List Notice} (queue : session.queue = workingQueue (notices.map .notice))
    (told : .terminated ∉ notices ∨
      ∃ before, notices = before ++ [.terminated] ∧ .terminated ∉ before) :
    session.drain =
      { session with
        queue := if .terminated ∈ notices then closedQueue else workingQueue []
        state := session.state.followAll notices } := by
  rcases told with unfinished | ⟨before, rfl, unfinished⟩
  · rw [if_neg unfinished]
    exact drain_notices queue unfinished
  · rw [if_pos (by simp)]
    exact drain_terminated queue unfinished

theorem mem_notices (debugger : Debugger) (signals : List Signal) :
    .terminated ∈ signals.map debugger.notice ↔ .terminated ∈ signals := by
  constructor
  · intro told
    obtain ⟨signal, member, same⟩ := List.mem_map.mp told
    exact Debugger.notice_eq_terminated same ▸ member
  · intro member
    exact List.mem_map_of_mem member

theorem notices_end
    {stops : Nat → Prop} {interpreter moved : Interpreter} {signals : List Signal}
    (debugger : Debugger) (move : Interpreter.Move stops interpreter moved signals) :
    .terminated ∉ signals.map debugger.notice ∨
      ∃ before, signals.map debugger.notice = before ++ [.terminated] ∧ .terminated ∉ before := by
  rcases move.told_end with unfinished | ⟨before, rfl, unfinished⟩
  · exact .inl (fun told => unfinished ((mem_notices debugger signals).mp told))
  · refine .inr ⟨before.map debugger.notice, by simp [Debugger.notice], ?_⟩
    exact fun told => unfinished ((mem_notices debugger before).mp told)

/-- What is left when a script has moved and all that it told is delivered. -/
theorem drain_moves
    (coherent : session.Coherent script held) (idle : session.Idle) {stops : Nat → Prop}
    {moved : Interpreter} {signals : List Signal}
    (move : Interpreter.Move stops session.state.target moved signals) :
    (signals.foldl signal
        { session with state := { session.state with target := moved } }).drain.Settles
      (if .terminated ∈ signals then closedQueue else session.queue) moved
      session.state.debugger
      (session.state.published ++ signals.map session.state.debugger.notice) := by
  let going : Session Interpreter :=
    { session with state := { session.state with target := moved } }
  change (signals.foldl signal going).drain.Settles _ _ _ _
  rcases idle with working | closed
  · have goingQueue : going.queue = workingQueue [] := working
    have posted := signals_workingQueue signals goingQueue
    rw [List.nil_append] at posted
    have queue : (signals.foldl signal going).queue =
        workingQueue ((signals.map session.state.debugger.notice).map .notice) := by
      rw [posted]
    rw [drain_told queue (notices_end session.state.debugger move), posted, working]
    simp only [mem_notices]
    constructor <;> simp [going]
  · have stopped : session.queue.stopped = true := by
      rw [closed]
      rfl
    obtain ⟨rfl, _⟩ := move.silent (coherent.detached stopped)
    have goingQueue : going.queue = closedQueue := closed
    rw [List.foldl_nil, drain_closed goingQueue]
    constructor <;> simp [going]

theorem Settles.idle
    {queue : EventQueue Role} {target : Interpreter} {debugger : Debugger}
    {published : List Notice} (settles : session.Settles queue target debugger published)
    (known : queue = workingQueue [] ∨ queue = closedQueue) :
    session.Idle := by
  unfold Idle
  rw [settles.queue]
  exact known

/-- A script that was not asked to go on does not. -/
theorem proceed_of_quiet (quiet : session.state.target.Quiet) : session.proceed = session := by
  have waits := Interpreter.proceed_idle (Observer.noting session.state.debugger.stopsAt) [] quiet
  simp only [proceed, Target.proceed, waits]
  rfl

theorem settle_of_quiet (idle : session.Idle) (quiet : session.state.target.Quiet) :
    session.settle = session := by
  rw [settle, drain_of_idle idle, proceed_of_quiet quiet, drain_of_idle idle]

theorem proceed_drain (coherent : session.Coherent script held) (idle : session.Idle) :
    ∃ moved signals,
      Interpreter.Move (fun line => session.state.debugger.stopsAt line = true)
          session.state.target moved signals ∧
        moved.Quiet ∧
        session.proceed.drain.Settles
          (if .terminated ∈ signals then closedQueue else session.queue) moved
          session.state.debugger
          (session.state.published ++ signals.map session.state.debugger.notice) := by
  obtain ⟨moved, signals, ran, move, quiet⟩ :=
    Interpreter.proceed_moves session.state.debugger.stopsAt coherent.paused
  refine ⟨moved, signals, move, quiet, ?_⟩
  simp only [proceed, Target.proceed, ran, List.reverse_reverse]
  exact drain_moves coherent idle move

/-- Settling after a request: the request is handled, and the script makes a move. -/
theorem settle_submit
    (coherent : session.Coherent script held) (queue : session.queue = workingQueue [])
    (request : Request) :
    ∃ moved signals,
      Interpreter.Move (fun line => (session.state.debugger.after request).stopsAt line = true)
          (session.state.target.after request) moved signals ∧
        moved.Quiet ∧
        (session.submit request).settle.Settles
          (if request = .disconnect ∨ .terminated ∈ signals then closedQueue else workingQueue [])
          moved (session.state.debugger.after request)
          (session.state.published ++
            (session.state.debugger.handle session.state.target request).notices ++
            signals.map (session.state.debugger.after request).notice) := by
  have submitted : (session.submit request).queue = workingQueue [.request request] := by
    rw [submit, queue]
    rfl
  -- The answer to the request is published before the script goes on.
  have drained := drain_request submitted
  rw [SessionState.handled_eq] at drained
  have coherentNow : (session.submit request).drain.Coherent script held := by
    rw [drain_eq_acts]
    exact (coherent.act (.submit request)).acts _
  have idle : (session.submit request).drain.Idle := by
    rw [drained]
    by_cases leaves : request = .disconnect
    · exact .inr (if_pos leaves)
    · exact .inl (if_neg leaves)
  obtain ⟨moved, signals, move, quiet, settles⟩ := proceed_drain coherentNow idle
  rw [drained] at move settles
  refine ⟨moved, signals, ?_, quiet, ?_⟩
  · simpa [submit] using move
  · have parts : (if request = .disconnect ∨ Signal.terminated ∈ signals then closedQueue
        else workingQueue []) =
        if .terminated ∈ signals then closedQueue
        else if request = .disconnect then closedQueue else workingQueue [] := by
      by_cases leaves : request = .disconnect <;> simp [leaves]
    rw [parts, settle, drained]
    simpa [submit] using settles

/-- Settling after a start: the script makes its first move. -/
theorem settle_start
    (coherent : session.Coherent script held) (idle : session.Idle)
    (unstarted : session.state.target.status = .notStarted) :
    ∃ begun moved signals,
      session.start = .ok begun ∧
        Interpreter.Move (fun line => session.state.debugger.stopsAt line = true)
          session.state.target moved signals ∧
        moved.Quiet ∧ moved.status ≠ .notStarted ∧
        begun.settle.Settles
          (if .terminated ∈ signals then closedQueue else session.queue) moved
          session.state.debugger
          (session.state.published ++ signals.map session.state.debugger.notice) := by
  obtain ⟨moved, signals, ran, move, quiet, begun⟩ :=
    Interpreter.run_moves session.state.debugger.stopsAt coherent.paused unstarted
  have started : session.start = .ok (signals.foldl signal
      { session with state := { session.state with target := moved } }) := by
    simp only [start, ran, List.reverse_reverse]
  refine ⟨_, moved, signals, started, move, quiet, begun, ?_⟩
  have settles := drain_moves coherent idle move
  have idleNow := settles.idle (by
    by_cases ended : Signal.terminated ∈ signals
    · exact .inr (if_pos ended)
    · rw [if_neg ended]
      exact idle)
  -- What was started has gone as far as it can, so settling does not let it go on again.
  have quietNow := quiet
  rw [← settles.target] at quietNow
  rw [settle, proceed_of_quiet quietNow, drain_of_idle idleNow]
  exact settles

end Settling

end Session

end ScriptDebugger
