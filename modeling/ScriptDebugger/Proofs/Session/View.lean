import ScriptDebugger.Proofs.Session.Lifecycle
import ScriptDebugger.Proofs.Session.Resuming

/-!
# What a session knows of its script

The phase of a session is rebuilt from the notices that reach its view, and the status of the script is
kept by the script itself.  While the queue is at work, the phase with all notices that still wait
followed is the one that belongs to the status.  A session ends in one of two ways: its script has told
its end, or its debugger has let go of the script.
-/

namespace ScriptDebugger

/-- The phase of a session that knows all of a script at a status. -/
def Phase.ofStatus : Status → Phase
  | .notStarted => .notStarted
  | .running => .running
  | .suspended none => .running
  | .suspended (some line) => .suspended line
  | .terminated => .terminated

/-- The phase after notices. -/
def Phase.afterNotices (phase : Phase) (notices : List Notice) : Phase :=
  notices.foldl (fun phase notice => phase.after (.notice notice)) phase

theorem Phase.afterNotices_append (phase : Phase) (first second : List Notice) :
    phase.afterNotices (first ++ second) = (phase.afterNotices first).afterNotices second :=
  List.foldl_append

/-- Answers to requests do not change a phase. -/
theorem Phase.afterNotices_answers
    (phase : Phase) {notices : List Notice}
    (answers : ∀ notice ∈ notices, notice.isLifecycle = false) :
    phase.afterNotices notices = phase := by
  induction notices with
  | nil => rfl
  | cons notice rest inductionHypothesis =>
      have kept : phase.after (.notice notice) = phase := by
        have answer := answers notice List.mem_cons_self
        cases notice with
        | started | suspended | resumed | terminated => cases answer
        | bindings | evaluated | memory => rfl
      rw [afterNotices, List.foldl_cons, kept]
      exact inductionHypothesis fun other member => answers other (List.mem_cons_of_mem _ member)

theorem Phase.after_request (phase : Phase) {request : Request} (kept : request ≠ .disconnect) :
    phase.after (.request request) = phase := by
  cases request with
  | disconnect => exact absurd rfl kept
  | resume | terminate | breakpoint | fetchVariables | changeVariable | evaluate | fetchMemory => rfl

/-- What an attached script tells of a move leads to the phase that belongs to where it stands then. -/
theorem Phase.afterNotices_move
    {stops : Nat → Prop} {interpreter moved : Interpreter} {signals : List Signal}
    (debugger : Debugger) (move : Interpreter.Move stops interpreter moved signals)
    (attached : interpreter.attached = true ↔ interpreter.status ≠ .terminated) :
    (Phase.ofStatus interpreter.status).afterNotices (signals.map debugger.notice) =
      Phase.ofStatus moved.status := by
  cases move with
  | idle => rfl
  | hold => rfl
  | quitUnstarted unstarted =>
      have attachedNow := attached.mpr (by simp [unstarted])
      rw [Interpreter.told_attached _ attachedNow]
      rfl
  | quit suspended =>
      have attachedNow := attached.mpr (by simp [suspended])
      rw [Interpreter.told_attached _ attachedNow]
      rfl
  | @go place stop signal departs =>
      have attachedNow : interpreter.attached = true := by
        apply attached.mpr
        cases departs with
        | start unstarted => simp [unstarted]
        | resume suspended => simp [suspended]
      rw [Interpreter.told_attached _ attachedNow, Interpreter.haltedAt_status]
      cases stop <;> rfl

/-- The phase that belongs to a status tells it, if the script is not under way. -/
theorem Phase.agrees
    {phase : Phase} {status : Status} (known : phase = .ofStatus status)
    (notRunning : status ≠ .running) :
    (phase = .notStarted ↔ status = .notStarted) ∧
      (∀ line, phase = .suspended line ↔ status = .suspended (some line)) ∧
      (phase = .running ↔ status = .suspended none) ∧
      (phase = .terminated ↔ status = .terminated) := by
  rw [known]
  cases status with
  | running => exact absurd rfl notRunning
  | notStarted | terminated => simp [ofStatus]
  | suspended place => cases place <;> simp [ofStatus]

/-- A script without a debugger does not wait anywhere new: it stays where it is or ends. -/
theorem Interpreter.Move.stays_or_ends
    {stops : Nat → Prop} {interpreter moved : Interpreter} {signals : List Signal}
    (move : Interpreter.Move stops interpreter moved signals)
    (detached : interpreter.attached = false) :
    moved = interpreter ∨ moved.status = .terminated := by
  cases move with
  | idle => exact .inl rfl
  | hold _ attached => simp [detached] at attached
  | quitUnstarted => exact .inr rfl
  | quit => exact .inr rfl
  | @go _ stop _ _ _ next =>
      cases stop with
      | none => exact .inr rfl
      | some line => simp [NextStop, detached] at next

namespace Session

/-- `Viewed handled session` means that the session, whose debugger has handled the requests `handled`,
knows as much of its script as the notices on their way allow, or has ended. -/
inductive Viewed (handled : List Request) (session : Session Interpreter) : Prop
  | working {pending : List Event} :
      .disconnect ∉ handled →
      session.queue = workingQueue pending →
      session.state.phase.afterNotices (pending.filterMap Event.notice?) =
        .ofStatus session.state.target.status →
      Viewed handled session
  | ended :
      .disconnect ∉ handled →
      session.queue.stopped = true →
      session.state.phase = .terminated →
      session.state.target.status = .terminated →
      Viewed handled session
  | left :
      .disconnect ∈ handled →
      session.queue.stopped = true →
      session.state.phase = .disconnected →
      (∀ place, session.state.target.status = .suspended place →
        session.state.target.resumeRequested = true) →
      Viewed handled session

section Viewed

variable {script : List String} {held : Bool} {session : Session Interpreter}
  {handled : List Request}

theorem Viewed.phase_of_working
    (viewed : session.Viewed handled) {pending : List Event}
    (queue : session.queue = workingQueue pending) :
    .disconnect ∉ handled ∧
      session.state.phase.afterNotices (pending.filterMap Event.notice?) =
        .ofStatus session.state.target.status := by
  have live : session.queue.stopped ≠ true := by
    rw [queue]
    exact Bool.false_ne_true
  cases viewed with
  | @working others kept queueNow phase =>
      have same : pending = others := congrArg EventQueue.pending (queue.symm.trans queueNow)
      exact ⟨kept, same ▸ phase⟩
  | ended _ stopped => exact absurd stopped live
  | left _ stopped => exact absurd stopped live

/-- A move of a script without a debugger keeps an ended session as it is. -/
theorem Viewed.moveAlone
    {moved : Interpreter} {stops : Nat → Prop} {signals : List Signal}
    (viewed : session.Viewed handled) (stopped : session.queue.stopped = true)
    (detached : session.state.target.attached = false)
    (move : Interpreter.Move stops session.state.target moved signals) :
    { session with state := { session.state with target := moved } }.Viewed handled := by
  cases viewed with
  | working _ queue =>
      rw [queue] at stopped
      cases stopped
  | ended kept _ phase terminated =>
      rw [move.stays terminated]
      exact .ended kept stopped phase terminated
  | left leaving _ phase resumed =>
      refine .left leaving stopped phase ?_
      intro place waits
      rcases move.stays_or_ends detached with rfl | terminated
      · exact resumed place waits
      · have elsewhere : moved.status = .suspended place := waits
        rw [terminated] at elsewhere
        cases elsewhere

/-- What a session knows of its script stays right after every change. -/
theorem Change.viewed
    {request : Option Request} {changed : Session Interpreter}
    (change : Change session request changed) (coherent : session.Coherent script held)
    (viewed : session.Viewed handled) :
    changed.Viewed (handled ++ request.toList) := by
  cases change with
  | stays => simpa using viewed
  | submits request queue =>
      obtain ⟨kept, phase⟩ := viewed.phase_of_working queue
      refine .working (by simpa using kept) rfl ?_
      rw [List.filterMap_append, Phase.afterNotices_append]
      exact phase
  | moves queue move =>
      -- What the move tells follows all that waited before.
      obtain ⟨kept, phase⟩ := viewed.phase_of_working queue
      refine .working (by simpa using kept) rfl ?_
      rw [List.filterMap_append, filterMap_notices, Phase.afterNotices_append]
      have moves := Phase.afterNotices_move session.state.debugger move
        (coherent.serving queue).attached
      rw [← phase] at moves
      exact moves
  | tells queue other =>
      obtain ⟨kept, phase⟩ := viewed.phase_of_working queue
      exact .working (by simpa using kept) rfl phase
  | ends queue =>
      obtain ⟨kept, _⟩ := viewed.phase_of_working queue
      have terminated := (coherent.serving queue).ended List.mem_cons_self
      exact .ended (by simpa using kept) rfl rfl terminated
  | @handles request rest queue other =>
      obtain ⟨kept, phase⟩ := viewed.phase_of_working queue
      have answers := session.state.debugger.handle_answers session.state.target request
      rw [SessionState.handled_eq]
      refine .working (by simp [kept, other.symm]) rfl ?_
      rw [List.filterMap_append, filterMap_notices, Phase.afterNotices_append,
        Phase.afterNotices_answers _ answers.answer, Phase.after_request _ other,
        Interpreter.after_status]
      exact phase
  | leaves queue =>
      rw [SessionState.handled_eq]
      refine .left (by simp) rfl rfl ?_
      intro place waits
      rw [Interpreter.after_status] at waits
      simp only [Interpreter.after, Interpreter.resume, waits]
  | movesAlone stopped move =>
      rw [Option.toList_none, List.append_nil]
      exact viewed.moveAlone stopped (coherent.detached stopped) move
  | closes stopped =>
      rw [Option.toList_none, List.append_nil]
      cases viewed with
      | working _ queue =>
          rw [queue] at stopped
          cases stopped
      | ended kept _ phase terminated => exact .ended kept rfl phase terminated
      | left leaving _ phase resumed => exact .left leaving rfl phase resumed

theorem Viewed.acts
    (viewed : session.Viewed handled) (coherent : session.Coherent script held)
    (actions : List Action) :
    (session.acts actions).Viewed (handled ++ session.handledRequests actions) := by
  induction actions generalizing session handled with
  | nil =>
      rw [handledRequests, List.append_nil]
      exact viewed
  | cons action later inductionHypothesis =>
      have change := coherent.change action
      have rest := inductionHypothesis (change.viewed coherent viewed) (change.coherent coherent)
      rw [List.append_assoc] at rest
      exact rest

end Viewed

theorem create_viewed (source : String) (held : Bool) (breakpoints : List Nat) :
    (create (Interpreter.ofSource source held) breakpoints).Viewed [] := by
  obtain ⟨queue, state⟩ := create_eq (Interpreter.ofSource source held) breakpoints
  refine .working List.not_mem_nil queue ?_
  rw [state]
  rfl

/-- In every settled session that undisturbed actions lead to, the session knows exactly where its script
stands, or it has let go of the script, which then does not wait anywhere. -/
theorem view_agrees_with_script
    (source : String) (held : Bool) (breakpoints : List Nat) (actions : List Action)
    {session : Session Interpreter} {handled : List Request}
    (reached : (create (Interpreter.ofSource source held) breakpoints).acts actions = session)
    (history :
      (create (Interpreter.ofSource source held) breakpoints).handledRequests actions = handled)
    (settled : session.Settled) :
    (.disconnect ∉ handled →
      (session.state.phase = .notStarted ↔ session.state.target.status = .notStarted) ∧
        (∀ line,
          session.state.phase = .suspended line ↔
            session.state.target.status = .suspended (some line)) ∧
        (session.state.phase = .running ↔ session.state.target.status = .suspended none) ∧
        (session.state.phase = .terminated ↔ session.state.target.status = .terminated)) ∧
      (.disconnect ∈ handled →
        session.state.phase = .disconnected ∧
          session.state.target.attached = false ∧
          (session.state.target.status = .notStarted ∨
            session.state.target.status = .terminated)) := by
  have fresh := create_coherent source held breakpoints
  have coherent := fresh.acts actions
  have viewed := (create_viewed source held breakpoints).acts fresh actions
  rw [List.nil_append, history] at viewed
  rw [reached] at coherent viewed
  have notRunning := coherent.paused.notRunning
  constructor
  · intro kept
    have phase : session.state.phase = .ofStatus session.state.target.status := by
      cases viewed with
      | @working pending _ queue phase =>
          have none : pending = [] := by
            rw [← settled.pending, queue]
            rfl
          rw [none] at phase
          exact phase
      | ended _ _ phase terminated => rw [phase, terminated, Phase.ofStatus]
      | left leaving => exact absurd leaving kept
    exact Phase.agrees phase notRunning
  · intro leaving
    cases viewed with
    | working kept => exact absurd leaving kept
    | ended kept => exact absurd leaving kept
    | left _ stopped phase resumed =>
        refine ⟨phase, coherent.detached stopped, ?_⟩
        cases status : session.state.target.status with
        | notStarted => exact .inl rfl
        | terminated => exact .inr rfl
        | running => exact absurd status notRunning
        | suspended place =>
            -- A script that waits has been resumed, so the session would not be settled.
            have waiting := (settled.quiet place status).2
            rw [resumed place status] at waiting
            cases waiting

end Session

end ScriptDebugger
