import ScriptDebugger.Proofs.Session.Settling

/-!
# Where a session stops

A settled session that is told to continue goes to the next breakpoint, and one that is told to step
goes to the next line; a start does what the last such request asked for.  In between exactly the lines
from where it waited up to where it stops are executed.
-/

namespace ScriptDebugger

/-! ## What the requests of a history leave -/

/-- How a request sets the program going. -/
def Request.resumeKind? : Request → Option ResumeKind
  | .resume kind => some kind
  | _ => none

/-- How the last request of a list that resumes does so. -/
def lastResume? (requests : List Request) : Option ResumeKind :=
  (requests.filterMap Request.resumeKind?).getLast?

theorem lastResume?_cons (request : Request) (later : List Request) :
    lastResume? (request :: later) = (lastResume? later).or request.resumeKind? := by
  unfold lastResume?
  cases kind : request.resumeKind? with
  | none => rw [List.filterMap_cons_none kind, Option.or_none]
  | some first =>
      rw [List.filterMap_cons_some kind, List.getLast?_cons]
      cases (later.filterMap Request.resumeKind?).getLast? <;> rfl

theorem Debugger.stepping_changeBreakpoint
    (debugger : Debugger) (marker : Marker) (change : BreakpointChange) :
    (debugger.changeBreakpoint marker change).stepping = debugger.stepping := by
  unfold changeBreakpoint
  split <;> rfl

theorem stepping_breakpoints (lines : List Nat) (debugger : Debugger) :
    (lines.foldl (fun debugger line => debugger.changeBreakpoint (Marker.atLine line) .added)
      debugger).stepping = debugger.stepping := by
  induction lines generalizing debugger with
  | nil => rfl
  | cons line later inductionHypothesis =>
      rw [List.foldl_cons, inductionHypothesis, Debugger.stepping_changeBreakpoint]

theorem Debugger.stepping_after (debugger : Debugger) (request : Request) :
    (debugger.after request).stepping =
      (request.resumeKind?.map fun kind => decide (kind = .stepOver)).getD debugger.stepping := by
  cases request with
  | breakpoint marker change => exact debugger.stepping_changeBreakpoint marker change
  | resume | terminate | disconnect | fetchVariables | changeVariable | evaluate | fetchMemory => rfl

theorem stepping_foldl (requests : List Request) (debugger : Debugger) :
    (requests.foldl Debugger.after debugger).stepping =
      ((lastResume? requests).map fun kind => decide (kind = .stepOver)).getD debugger.stepping := by
  induction requests generalizing debugger with
  | nil => rfl
  | cons request later inductionHypothesis =>
      rw [List.foldl_cons, inductionHypothesis, Debugger.stepping_after, lastResume?_cons]
      cases lastResume? later <;> rfl

theorem Interpreter.after_terminateRequested
    (interpreter : Interpreter) {request : Request} (other : request ≠ .terminate) :
    (interpreter.after request).terminateRequested = interpreter.terminateRequested := by
  cases request with
  | terminate => exact absurd rfl other
  | resume kind => rw [after, resume_frame]
  | disconnect => rw [after, resume_frame]
  | changeVariable name content => rw [after, setVariable_frame]
  | breakpoint | fetchVariables | evaluate | fetchMemory => rfl

namespace Session

section History

variable {script : List String} {held : Bool} {session changed : Session Interpreter}
  {handled : Option Request}

theorem Change.debugger (change : Change session handled changed) :
    changed.state.debugger = handled.toList.foldl Debugger.after session.state.debugger := by
  cases change with
  | handles => rw [SessionState.handled_eq]; rfl
  | leaves => rw [SessionState.handled_eq]; rfl
  | stays | submits | moves | tells | ends | movesAlone | closes => rfl

theorem Change.terminateRequested
    (change : Change session handled changed) (other : .terminate ∉ handled) :
    changed.state.target.terminateRequested = session.state.target.terminateRequested := by
  cases change with
  | @handles request =>
      rw [SessionState.handled_eq]
      exact session.state.target.after_terminateRequested (by simpa using other)
  | leaves =>
      rw [SessionState.handled_eq]
      exact session.state.target.after_terminateRequested (by simp)
  | moves _ move => exact move.terminateRequested
  | movesAlone _ move => exact move.terminateRequested
  | stays | submits | tells | ends | closes => rfl

theorem debugger_acts (coherent : session.Coherent script held) (actions : List Action) :
    (session.acts actions).state.debugger =
      (session.handledRequests actions).foldl Debugger.after session.state.debugger := by
  induction actions generalizing session with
  | nil => rfl
  | cons action later inductionHypothesis =>
      have change := coherent.change action
      have first := change.debugger
      have rest := inductionHypothesis (change.coherent coherent)
      rw [first] at rest
      rw [handledRequests, List.foldl_append]
      exact rest

theorem terminateRequested_acts
    (coherent : session.Coherent script held) {actions : List Action}
    (other : .terminate ∉ session.handledRequests actions) :
    (session.acts actions).state.target.terminateRequested =
      session.state.target.terminateRequested := by
  induction actions generalizing session with
  | nil => rfl
  | cons action later inductionHypothesis =>
      have change := coherent.change action
      have parts : .terminate ∉ session.handles? action ∧
          .terminate ∉ (session.act action).handledRequests later := by
        simpa [handledRequests] using other
      exact (inductionHypothesis (change.coherent coherent) parts.2).trans
        (change.terminateRequested parts.1)

end History

end Session

/-! ## The next stop -/

/-- The notice of a stop. -/
def Notice.ofStop : Option Nat → Notice
  | some line => .suspended line
  | none => .terminated

/-- The cause that is told when the program is set going. -/
def ResumeKind.cause : ResumeKind → ResumeCause
  | .continue => .continue
  | .stepOver => .stepping

/-- `StopsNext kind breakpoints line count stop` means that a program that is set going behind `line`
stops next at `stop`: at the least breakpoint, or at the next line. -/
def StopsNext (kind : ResumeKind) (breakpoints : LineSet) (line count : Nat)
    (stop : Option Nat) : Prop :=
  match kind with
  | .continue => NextStop (fun later => later ∈ breakpoints) line count stop
  | .stepOver => stop = if line + 1 ≤ count then some (line + 1) else none

theorem NextStop.congr
    {stops others : Nat → Prop} {line count : Nat} {stop : Option Nat}
    (same : ∀ later, stops later ↔ others later) (next : NextStop stops line count stop) :
    NextStop others line count stop := by
  have equal : stops = others := funext fun later => propext (same later)
  exact equal ▸ next

theorem NextStop.eq_next
    {stops : Nat → Prop} {line count : Nat} {stop : Option Nat}
    (every : ∀ later, stops later) (next : NextStop stops line count stop) :
    stop = if line + 1 ≤ count then some (line + 1) else none := by
  cases stop with
  | none =>
      by_cases within : line + 1 ≤ count
      · exact absurd (every (line + 1)) (next (line + 1) (by omega) within)
      · rw [if_neg within]
  | some stop =>
      obtain ⟨after, within, _, first⟩ := next
      have adjacent : stop = line + 1 := by
        by_cases beyond : line + 1 < stop
        · exact absurd (every (line + 1)) (first (line + 1) (by omega) beyond)
        · omega
      rw [if_pos (by omega), adjacent]

theorem stopsNext_of_nextStop
    {kind : ResumeKind} {debugger : Debugger} {line count : Nat} {stop : Option Nat}
    (stepping : debugger.stepping = decide (kind = .stepOver))
    (next : NextStop (fun later => debugger.stopsAt later = true) line count stop) :
    StopsNext kind debugger.breakpoints line count stop := by
  cases kind with
  | «continue» =>
      exact next.congr (by simp [Debugger.stopsAt, stepping])
  | stepOver =>
      exact next.eq_next (by simp [Debugger.stopsAt, stepping])

theorem Interpreter.resumed_eq
    {interpreter : Interpreter} {place : Option Nat}
    (suspended : interpreter.status = .suspended place) (kind : ResumeKind) :
    interpreter.after (.resume kind) = { interpreter with resumeRequested := true } := by
  rw [Interpreter.after, Interpreter.resume, suspended]

theorem notice_ofStop (debugger : Debugger) (stop : Option Nat) :
    debugger.notice (.ofStop stop) = .ofStop stop := by
  cases stop <;> rfl

namespace Session

/-- A settled session: nothing waits, and the script has gone as far as it was asked to. -/
structure Settled (session : Session Interpreter) : Prop where
  pending : session.queue.pending = []
  quiet : session.state.target.Quiet

/-- The session `after` has gone on from the session `before`, where it was to execute the line `first`
next, to `stop`. -/
structure RunsTo (script : List String) (before after : Session Interpreter) (first : Nat)
    (opening : Notice) (stop : Option Nat) : Prop where
  status : after.state.target.status = .ofStop stop
  published : after.state.published = before.state.published ++ [opening, .ofStop stop]
  values : after.state.target.values =
    (before.state.target.executeAll
      (linesBetween script first (stop.getD (script.length + 1)))).values

section Resuming

variable {script : List String} {held : Bool} {session : Session Interpreter}

theorem Coherent.workingQueue_of_settled
    (coherent : session.Coherent script held) (settled : session.Settled)
    (live : session.queue.stopped = false) :
    session.queue = workingQueue [] := by
  rcases coherent.queue with ⟨pending, queue, _⟩ | ⟨stopped, _⟩
  · have none : pending = [] := by
      rw [← settled.pending, queue]
      rfl
    rw [queue, none]
  · rw [live] at stopped
    cases stopped

theorem Settles.runsTo
    {after : Session Interpreter} {queue : EventQueue Role} {debugger : Debugger}
    {interpreter : Interpreter} {first : Nat} {opening : Notice} {stop : Option Nat}
    (settles : after.Settles queue
      ((interpreter.going.executeAll
        (linesBetween script first (stop.getD (script.length + 1)))).haltedAt stop)
      debugger (session.state.published ++ [opening, .ofStop stop]))
    (same : interpreter.values = session.state.target.values) :
    RunsTo script session after first opening stop where
  status := by
    rw [settles.target]
    exact Interpreter.haltedAt_status _ _
  published := settles.published
  values := by
    rw [settles.target, Interpreter.haltedAt_values]
    exact Interpreter.values_executeAll_congr _ same

/-- A session that waits and is told to go on does so to the next stop. -/
theorem resume_runsTo
    {place : Option Nat} (coherent : session.Coherent script held) (settled : session.Settled)
    (live : session.queue.stopped = false)
    (suspended : session.state.target.status = .suspended place) (kind : ResumeKind) :
    ∃ stop,
      StopsNext kind session.state.debugger.breakpoints (place.getD 0) script.length stop ∧
        RunsTo script session (session.submit (.resume kind)).settle (place.getD 1)
          (.resumed kind.cause) stop := by
  have queue := coherent.workingQueue_of_settled settled live
  have attached := (coherent.serving queue).attached.mpr (by simp [suspended])
  obtain ⟨notEnding, _⟩ := settled.quiet place suspended
  obtain ⟨moved, signals, move, quiet, settles⟩ := settle_submit coherent queue (.resume kind)
  rw [Interpreter.resumed_eq suspended kind] at move
  obtain ⟨stop, next, rfl, rfl⟩ := move.of_resumed quiet suspended attached rfl notEnding
  simp only [coherent.script] at next settles
  have stepping : (session.state.debugger.after (.resume kind)).stepping =
      decide (kind = .stepOver) :=
    rfl
  have cause : (session.state.debugger.after (.resume kind)).notice .resumed =
      .resumed kind.cause := by
    cases kind <;> rfl
  have unanswered :
      (session.state.debugger.handle session.state.target (.resume kind)).notices = [] :=
    rfl
  rw [unanswered, List.append_nil, List.map_cons, List.map_singleton, cause, notice_ofStop]
    at settles
  have stops := stopsNext_of_nextStop stepping next
  exact ⟨stop, stops, settles.runsTo rfl⟩

/-- A script that is started and not held goes to its first stop. -/
theorem start_runsTo
    (coherent : session.Coherent script false) (settled : session.Settled)
    (live : session.queue.stopped = false)
    (unstarted : session.state.target.status = .notStarted)
    (notEnding : session.state.target.terminateRequested = false) {kind : ResumeKind}
    (stepping : session.state.debugger.stepping = decide (kind = .stepOver)) :
    ∃ begun stop,
      session.start = .ok begun ∧
        StopsNext kind session.state.debugger.breakpoints 0 script.length stop ∧
        RunsTo script session begun.settle 1 .started stop := by
  have queue := coherent.workingQueue_of_settled settled live
  have attached := (coherent.serving queue).attached.mpr (by simp [unstarted])
  obtain ⟨begun, moved, signals, started, move, _, moves, settles⟩ :=
    settle_start coherent (.inl queue) unstarted
  obtain ⟨stop, next, rfl, rfl⟩ :=
    move.of_started moves unstarted attached coherent.held notEnding
  simp only [coherent.script] at next settles
  rw [List.map_cons, List.map_singleton, notice_ofStop] at settles
  exact ⟨begun, stop, started, stopsNext_of_nextStop stepping next, settles.runsTo rfl⟩

end Resuming

/-- In every settled and live session that actions lead to, a script that waits goes exactly to the
next breakpoint or to the next line, as it is told, and a script that is started goes where the last
resumption asked for. -/
theorem stops_placed_exactly
    (source : String) (held : Bool) (breakpoints : List Nat) (actions : List Action)
    {session : Session Interpreter} {handled : List Request}
    (reached : (create (Interpreter.ofSource source held) breakpoints).acts actions = session)
    (history :
      (create (Interpreter.ofSource source held) breakpoints).handledRequests actions = handled)
    (settled : session.Settled) (live : session.queue.stopped = false) :
    (∀ place kind,
      session.state.target.status = .suspended place →
      ∃ stop,
        StopsNext kind session.state.debugger.breakpoints (place.getD 0)
            (Text.lines source).length stop ∧
          RunsTo (Text.lines source) session (session.submit (.resume kind)).settle (place.getD 1)
            (.resumed kind.cause) stop) ∧
      (session.state.target.status = .notStarted →
        held = false →
        .terminate ∉ handled →
        ∃ begun stop,
          session.start = .ok begun ∧
            StopsNext ((lastResume? handled).getD .continue) session.state.debugger.breakpoints 0
              (Text.lines source).length stop ∧
            RunsTo (Text.lines source) session begun.settle 1 .started stop) := by
  have fresh := create_coherent source held breakpoints
  have state := (create_eq (Interpreter.ofSource source held) breakpoints).2
  have coherent := fresh.acts actions
  have debugger := debugger_acts fresh actions
  rw [reached] at coherent debugger
  rw [history] at debugger
  constructor
  · intro place kind suspended
    exact resume_runsTo coherent settled live suspended kind
  · intro unstarted direct other
    subst direct
    rw [← history] at other
    have notEnding := terminateRequested_acts fresh other
    rw [reached, state] at notEnding
    refine start_runsTo coherent settled live unstarted notEnding ?_
    rw [debugger, stepping_foldl, state, stepping_breakpoints]
    cases lastResume? handled <;> rfl

theorem stops_placed_exactly_at_breakpoint :
    ∃ session,
      (create (Interpreter.ofSource "a=1\nb=2\nc=3" false) [2]).acts [.start, .deliver, .deliver] =
          session ∧
        session.Settled ∧
        session.queue.stopped = false ∧
        session.state.target.status = .suspended (some 2) ∧
        ∃ stop,
          StopsNext .stepOver session.state.debugger.breakpoints 2
              (Text.lines "a=1\nb=2\nc=3").length stop ∧
            RunsTo (Text.lines "a=1\nb=2\nc=3") session
              (session.submit (.resume .stepOver)).settle 2 (.resumed .stepping) stop := by
  refine ⟨_, rfl, ⟨rfl, fun _ _ => ⟨rfl, rfl⟩⟩, rfl, rfl, ?_⟩
  exact (stops_placed_exactly _ _ _ _ rfl rfl ⟨rfl, fun _ _ => ⟨rfl, rfl⟩⟩ rfl).1
    (some 2) .stepOver rfl

end Session

end ScriptDebugger
