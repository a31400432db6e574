import ScriptDebugger.Debugging.StandIn
import ScriptDebugger.Proofs.Debugger.History
import ScriptDebugger.Proofs.Session.Delivery

/-!
# The end of a session is final

A session is looked at over any target whatever: the target may fail in all its operations and come into
any state by itself, and the debugger may be told anything of it in any order.  The phase of the session
is then the one that the last delivered event gives.  Nothing in the view protects the final phases.
They last because the queue is stopped when the first of them is reached, by the debugger before the
view follows a disconnection and by the worker after it has delivered the end of the program.
-/

namespace ScriptDebugger

/-! ## Phases -/

/-- The phase that an event gives. -/
def Event.phase? : Event → Option Phase
  | .notice .started => some .running
  | .notice (.resumed _) => some .running
  | .notice (.suspended line) => some (.suspended line)
  | .notice .terminated => some .terminated
  | .request .disconnect => some .disconnected
  | .notice (.bindings _) | .notice (.evaluated _ _) | .notice (.memory _ _) => none
  | .request (.resume _) | .request .terminate | .request (.breakpoint _ _)
  | .request .fetchVariables | .request (.changeVariable _ _) | .request (.evaluate _)
  | .request (.fetchMemory _ _) => none

/-- The phase that the last of some events gives that gives one at all. -/
def Phase.ofLast (events : List Event) : Phase :=
  (events.filterMap Event.phase?).getLast?.getD .notStarted

/-- Whether a phase is one of the two in which a session ends. -/
def Phase.isFinal : Phase → Bool
  | .terminated | .disconnected => true
  | .notStarted | .running | .suspended _ => false

theorem Phase.after_eq (phase : Phase) (event : Event) :
    phase.after event = event.phase?.elim phase id := by
  cases event with
  | notice notice => cases notice <;> rfl
  | request request => cases request <;> rfl

theorem Phase.foldl_after (events : List Event) :
    events.foldl Phase.after .notStarted = .ofLast events := by
  have last := foldl_eq_last (fun phase : Phase => phase) Phase.after_eq events .notStarted
  rw [ofLast]
  refine last.trans ?_
  cases (events.filterMap Event.phase?).getLast? <;> rfl

/-- Only the end of the program and a disconnection lead to a final phase. -/
theorem Phase.isFinal_after
    {phase : Phase} {event : Event} (going : phase.isFinal = false)
    (unfinished : event ≠ .notice .terminated) (kept : event ≠ .request .disconnect) :
    (phase.after event).isFinal = false := by
  cases event with
  | notice notice =>
      cases notice with
      | terminated => exact absurd rfl unfinished
      | started | suspended | resumed => rfl
      | bindings | evaluated | memory => exact going
  | request request =>
      cases request with
      | disconnect => exact absurd rfl kept
      | resume | terminate | breakpoint | fetchVariables | changeVariable | evaluate | fetchMemory =>
          exact going

/-! ## A stopped queue -/

namespace EventQueue

variable {κ σ : Type} (handler : Handler κ σ)

theorem post_of_stopped
    {queue : EventQueue κ} (stopped : queue.stopped = true) (event : Event) :
    queue.post event = queue :=
  if_pos stopped

/-- The worker of a stopped queue delivers nothing. -/
theorem turn_of_stopped
    {current : EventQueue κ × σ} (stopped : current.1.stopped = true) :
    (turn handler current).1.stopped = true ∧ (turn handler current).2 = current.2 := by
  unfold turn
  split
  · rw [if_pos stopped]
    exact ⟨rfl, rfl⟩
  · exact ⟨stopped, rfl⟩

theorem turns_of_stopped
    (count : Nat) {current : EventQueue κ × σ} (stopped : current.1.stopped = true) :
    (turns handler count current).1.stopped = true ∧
      (turns handler count current).2 = current.2 := by
  induction count generalizing current with
  | zero => exact ⟨stopped, rfl⟩
  | succ count inductionHypothesis =>
      obtain ⟨stoppedNow, same⟩ := turn_of_stopped handler stopped
      obtain ⟨stoppedThen, kept⟩ := inductionHypothesis stoppedNow
      exact ⟨stoppedThen, kept.trans same⟩

end EventQueue

/-! ## Happenings -/

namespace Session

/-- What can happen to a session over any target. -/
inductive Happening (τ : Type) where
  | submit (request : Request)
  | addBreakpoint (line : Nat)
  | removeBreakpoint (line : Nat)
  | evaluate (expression : String)
  | receiveAll
  | waitFor (isMatch : Notice → Bool) (milliseconds : Nat)
  | shutdown
  /-- The debugger is told of the program. -/
  | signal (signal : Signal)
  /-- The target comes into a state, by itself or by others. -/
  | become (target : τ)
  /-- The worker takes a turn. -/
  | deliver

section Happenings

variable {τ ε : Type} [Target τ ε]

/-- The session after something has happened. -/
def happen (session : Session τ) : Happening τ → Session τ
  | .submit request => session.submit request
  | .addBreakpoint line => session.addBreakpoint line
  | .removeBreakpoint line => session.removeBreakpoint line
  | .evaluate expression => (session.evaluate expression).2
  | .receiveAll => session.receiveAll.2
  | .waitFor isMatch milliseconds => (session.waitFor isMatch milliseconds).2
  | .shutdown => session.shutdown.1
  | .signal signal => session.signal signal
  | .become target => { session with state := { session.state with target := target } }
  | .deliver =>
    match EventQueue.turn sessionHandler (session.queue, session.state) with
    | (queue, state) => { session with queue := queue, state := state }

/-- The session after happenings, one after the other. -/
def happenAll (session : Session τ) (happenings : List (Happening τ)) : Session τ :=
  happenings.foldl happen session

/-- The event that is delivered when something happens. -/
def delivers? (session : Session τ) : Happening τ → Option Event
  | .deliver =>
    match session.queue.worker, session.queue.stopped with
    | .running, false => session.queue.pending.head?
    | _, _ => none
  | .submit _ | .addBreakpoint _ | .removeBreakpoint _ | .evaluate _ | .receiveAll
  | .waitFor _ _ | .shutdown | .signal _ | .become _ => none

/-- The events that are delivered during happenings, in this order. -/
def delivered (session : Session τ) : List (Happening τ) → List Event
  | [] => []
  | happening :: later =>
    (session.delivers? happening).toList ++ (session.happen happening).delivered later

/-- The event that is posted when something happens. -/
def posts? (session : Session τ) : Happening τ → Option Event
  | .submit request => some (.request request)
  | .addBreakpoint line => some (.request (.breakpoint (Marker.atLine line) .added))
  | .removeBreakpoint line => some (.request (.breakpoint (Marker.atLine line) .removed))
  | .evaluate expression => some (.request (.evaluate (session.newEvaluation expression).1))
  | .signal signal => some (.notice (session.state.debugger.notice signal))
  | .receiveAll | .waitFor _ _ | .shutdown | .become _ | .deliver => none

/-- The target when something happens in which the debugger has no part. -/
def Happening.target (target : τ) : Happening τ → τ
  | .become changed => changed
  | .submit _ | .addBreakpoint _ | .removeBreakpoint _ | .evaluate _ | .receiveAll
  | .waitFor _ _ | .shutdown | .signal _ | .deliver => target

/-- The breakpoints asked for when something happens. -/
def Happening.requested (requested : LineSet) : Happening τ → LineSet
  | .addBreakpoint line => requested.insert line
  | .removeBreakpoint line => requested.erase line
  | .submit _ | .evaluate _ | .receiveAll | .waitFor _ _ | .shutdown | .signal _ | .become _
  | .deliver => requested

theorem waitFor_frame (session : Session τ) (isMatch : Notice → Bool) (milliseconds : Nat) :
    (session.waitFor isMatch milliseconds).2 =
      { session with received := (session.waitFor isMatch milliseconds).2.received } := by
  unfold waitFor
  split <;> rfl

theorem shutdown_state (session : Session τ) :
    session.shutdown.1.queue.stopped = true ∧ session.shutdown.1.state = session.state ∧
      session.shutdown.1.requested = session.requested := by
  have stopped : (session.queue.stop, session.state).1.stopped = true := rfl
  obtain ⟨stoppedNow, same⟩ := EventQueue.turns_of_stopped sessionHandler
    (2 * session.queue.pending.length + 1) stopped
  refine ⟨?_, same, rfl⟩
  exact stoppedNow

theorem delivers?_call
    (session : Session τ) {happening : Happening τ} (called : happening ≠ .deliver) :
    session.delivers? happening = none := by
  cases happening with
  | deliver => exact absurd rfl called
  | submit | addBreakpoint | removeBreakpoint | evaluate | receiveAll | waitFor | shutdown | signal
  | become => rfl

/-- A call and a signal post one event at most and leave the rest to the worker. -/
theorem happen_call
    (session : Session τ) {happening : Happening τ} (called : happening ≠ .deliver)
    (kept : happening ≠ .shutdown) :
    (session.happen happening).queue =
        (session.posts? happening).elim session.queue session.queue.post ∧
      (session.happen happening).state =
        { session.state with target := happening.target session.state.target } ∧
      (session.happen happening).requested = happening.requested session.requested := by
  cases happening with
  | deliver => exact absurd rfl called
  | shutdown => exact absurd rfl kept
  | waitFor isMatch milliseconds =>
      rw [happen, waitFor_frame]
      exact ⟨rfl, rfl, rfl⟩
  | submit | addBreakpoint | removeBreakpoint | evaluate | receiveAll | signal | become =>
      exact ⟨rfl, rfl, rfl⟩

/-! ## Beginning and settling -/

theorem happenAll_append (session : Session τ) (first second : List (Happening τ)) :
    session.happenAll (first ++ second) = (session.happenAll first).happenAll second :=
  List.foldl_append

theorem turns_eq_happenAll (session : Session τ) (count : Nat) :
    (match EventQueue.turns sessionHandler count (session.queue, session.state) with
      | (queue, state) => { session with queue := queue, state := state }) =
      session.happenAll (List.replicate count .deliver) := by
  induction count generalizing session with
  | zero => rfl
  | succ count inductionHypothesis =>
      rw [List.replicate_succ]
      exact inductionHypothesis (session.happen .deliver)

theorem drain_eq_happenAll (session : Session τ) :
    session.drain =
      session.happenAll (List.replicate (2 * session.queue.pending.length + 1) .deliver) :=
  session.turns_eq_happenAll (2 * session.queue.pending.length + 1)

theorem proceed_eq_happenAll (session : Session τ) :
    session.proceed =
      session.happenAll
        (.become (Target.proceed session.state.debugger.stopsAt session.state.target).1 ::
          (Target.proceed session.state.debugger.stopsAt session.state.target).2.map .signal) := by
  rw [happenAll, List.foldl_cons, List.foldl_map]
  rfl

/-- To settle is to let the worker take turns and the target become what it becomes and tell of it. -/
theorem settle_eq_happenAll (session : Session τ) :
    ∃ happenings, session.settle = session.happenAll happenings := by
  obtain ⟨first, delivered⟩ : ∃ happenings, session.drain = session.happenAll happenings :=
    ⟨_, session.drain_eq_happenAll⟩
  obtain ⟨second, gone⟩ :
      ∃ happenings, session.drain.proceed = session.drain.happenAll happenings :=
    ⟨_, session.drain.proceed_eq_happenAll⟩
  obtain ⟨third, told⟩ :
      ∃ happenings, session.drain.proceed.drain = session.drain.proceed.happenAll happenings :=
    ⟨_, session.drain.proceed.drain_eq_happenAll⟩
  refine ⟨first ++ (second ++ third), ?_⟩
  rw [happenAll_append, ← delivered, happenAll_append, ← gone, ← told, settle]

/-- A session is created by asking for its breakpoints one after the other. -/
theorem create_eq_happenAll (target : τ) (breakpoints : List Nat) :
    ∃ turns : Nat, ∃ attached : τ,
      create target breakpoints =
        ({ queue := workingQueue [], state := { target := target } } : Session τ).happenAll
          (breakpoints.map .addBreakpoint ++ (List.replicate turns .deliver ++
            [.become attached])) := by
  let asked := breakpoints.foldl addBreakpoint
    ({ queue := workingQueue [], state := { target := target } } : Session τ)
  refine ⟨2 * asked.queue.pending.length + 1,
    Target.setAttached true asked.drain.state.target, ?_⟩
  have fold : asked = ({ queue := workingQueue [], state := { target := target } } :
      Session τ).happenAll (breakpoints.map .addBreakpoint) := by
    rw [happenAll, List.foldl_map]
    rfl
  rw [happenAll_append, happenAll_append, ← fold, ← drain_eq_happenAll]
  rfl

/-! ## A session whose queue is stopped -/

/-- When the queue of a session is stopped, nothing that happens is delivered, and the session stays as
it is but for what becomes of its target without the debugger. -/
theorem happen_of_stopped
    {session : Session τ} (stopped : session.queue.stopped = true) (happening : Happening τ) :
    (session.happen happening).queue.stopped = true ∧
      (session.happen happening).state =
        { session.state with target := happening.target session.state.target } ∧
      session.delivers? happening = none := by
  by_cases turns : happening = .deliver
  · subst turns
    have stoppedBefore : (session.queue, session.state).1.stopped = true := stopped
    obtain ⟨stoppedNow, same⟩ := EventQueue.turn_of_stopped sessionHandler stoppedBefore
    refine ⟨stoppedNow, same, ?_⟩
    simp [delivers?, stopped]
  · by_cases ends : happening = .shutdown
    · subst ends
      obtain ⟨stoppedNow, same, _⟩ := session.shutdown_state
      exact ⟨stoppedNow, same, rfl⟩
    · obtain ⟨queue, state, _⟩ := session.happen_call turns ends
      have unmoved : (session.happen happening).queue = session.queue := by
        rw [queue]
        cases session.posts? happening with
        | none => rfl
        | some event => exact EventQueue.post_of_stopped stopped event
      exact ⟨unmoved ▸ stopped, state, session.delivers?_call turns⟩

theorem happenAll_of_stopped
    {session : Session τ} (stopped : session.queue.stopped = true)
    (happenings : List (Happening τ)) :
    (session.happenAll happenings).state =
        { session.state with
          target := happenings.foldl Happening.target session.state.target } ∧
      session.delivered happenings = [] := by
  induction happenings generalizing session with
  | nil => exact ⟨rfl, rfl⟩
  | cons happening later inductionHypothesis =>
      obtain ⟨stoppedNow, state, nothing⟩ := happen_of_stopped stopped happening
      obtain ⟨stateThen, nothingLater⟩ := inductionHypothesis stoppedNow
      constructor
      · refine stateThen.trans ?_
        rw [state]
        rfl
      · rw [delivered, nothing, nothingLater]
        rfl

theorem stopped_happenAll
    {session : Session τ} (stopped : session.queue.stopped = true)
    (happenings : List (Happening τ)) :
    (session.happenAll happenings).queue.stopped = true := by
  induction happenings generalizing session with
  | nil => exact stopped
  | cons happening later inductionHypothesis =>
      exact inductionHypothesis (happen_of_stopped stopped happening).1

theorem live_of_happenAll
    {session : Session τ} (happenings : List (Happening τ))
    (live : (session.happenAll happenings).queue.stopped = false) :
    session.queue.stopped = false := by
  cases stopped : session.queue.stopped with
  | false => rfl
  | true =>
      rw [stopped_happenAll stopped happenings] at live
      cases live

/-! ## A session at work -/

section Working

variable {session : Session τ} {pending : List Event}

theorem happen_call_working
    (queue : session.queue = workingQueue pending) {happening : Happening τ}
    (called : happening ≠ .deliver) (kept : happening ≠ .shutdown) :
    (session.happen happening).queue =
      workingQueue (pending ++ (session.posts? happening).toList) := by
  rw [(session.happen_call called kept).1, queue]
  cases session.posts? happening with
  | none => rw [Option.elim_none, Option.toList_none, List.append_nil]
  | some event => rfl

theorem happen_deliver_idle (queue : session.queue = workingQueue []) :
    session.happen .deliver = session ∧ session.delivers? .deliver = none := by
  constructor
  · rw [happen, queue, turn_idle]
    simp only [← queue]
  · rw [delivers?, queue]
    rfl

/-- What the worker of a session at work does with the next event: the debugger serves it and the view
follows it; the queue is stopped by the end of the program and by a disconnection, and otherwise the
answers wait behind the rest. -/
theorem happen_deliver
    {event : Event} {rest : List Event} (queue : session.queue = workingQueue (event :: rest)) :
    session.delivers? .deliver = some event ∧
      (session.happen .deliver).state.phase = session.state.phase.after event ∧
      if event = .notice .terminated ∨ event = .request .disconnect
      then (session.happen .deliver).queue.stopped = true
      else ∃ answers : List Notice,
        (session.happen .deliver).queue = workingQueue (rest ++ answers.map .notice) := by
  refine ⟨by rw [delivers?, queue]; rfl, ?_⟩
  rw [happen, queue]
  cases event with
  | notice notice =>
      by_cases final : notice = .terminated
      · subst final
        exact ⟨rfl, rfl⟩
      · rw [turn_notice rest _ final, if_neg (by simpa using final)]
        exact ⟨rfl, [], by simp⟩
  | request request =>
      rw [turn_request]
      by_cases leaving : request = .disconnect
      · subst leaving
        exact ⟨rfl, rfl⟩
      · rw [if_neg leaving, if_neg (by simpa using leaving)]
        exact ⟨rfl, _, rfl⟩

end Working

/-- A session at work has not come to a final phase; otherwise its queue is stopped. -/
inductive Orderly (session : Session τ) : Prop
  | working {pending : List Event} :
      session.queue = workingQueue pending →
      session.state.phase.isFinal = false →
      Orderly session
  | stopped :
      session.queue.stopped = true →
      Orderly session

theorem Orderly.queue_of_live
    {session : Session τ} (orderly : session.Orderly) (live : session.queue.stopped = false) :
    ∃ pending, session.queue = workingQueue pending := by
  cases orderly with
  | working queue => exact ⟨_, queue⟩
  | stopped stopped =>
      rw [live] at stopped
      cases stopped

theorem Orderly.happen
    {session : Session τ} (orderly : session.Orderly) (happening : Happening τ) :
    (session.happen happening).Orderly := by
  cases orderly with
  | stopped stopped => exact .stopped (happen_of_stopped stopped happening).1
  | @working pending queue going =>
      by_cases turns : happening = .deliver
      · subst turns
        cases pending with
        | nil =>
            rw [(happen_deliver_idle queue).1]
            exact .working queue going
        | cons event rest =>
            obtain ⟨_, phase, queueNow⟩ := happen_deliver queue
            split at queueNow
            case isTrue => exact .stopped queueNow
            case isFalse other =>
              obtain ⟨answers, queueNow⟩ := queueNow
              have parts := not_or.mp other
              refine .working queueNow ?_
              rw [phase]
              exact Phase.isFinal_after going parts.1 parts.2
      · by_cases ends : happening = .shutdown
        · subst ends
          exact .stopped session.shutdown_state.1
        · refine .working (happen_call_working queue turns ends) ?_
          rw [(session.happen_call turns ends).2.1]
          exact going

/-- The phase follows what is delivered. -/
theorem Orderly.phase_happen
    {session : Session τ} (orderly : session.Orderly) (happening : Happening τ) :
    (session.happen happening).state.phase =
      (session.delivers? happening).toList.foldl Phase.after session.state.phase := by
  cases orderly with
  | stopped stopped =>
      obtain ⟨_, state, nothing⟩ := happen_of_stopped stopped happening
      rw [state, nothing]
      rfl
  | @working pending queue =>
      by_cases turns : happening = .deliver
      · subst turns
        cases pending with
        | nil =>
            obtain ⟨same, nothing⟩ := happen_deliver_idle queue
            rw [same, nothing]
            rfl
        | cons event rest =>
            obtain ⟨delivers, phase, _⟩ := happen_deliver queue
            rw [phase, delivers]
            rfl
      · rw [session.delivers?_call turns]
        by_cases ends : happening = .shutdown
        · subst ends
          exact congrArg SessionState.phase session.shutdown_state.2.1
        · rw [(session.happen_call turns ends).2.1]
          rfl

theorem Orderly.happenAll
    {session : Session τ} (orderly : session.Orderly) (happenings : List (Happening τ)) :
    (session.happenAll happenings).Orderly ∧
      (session.happenAll happenings).state.phase =
        (session.delivered happenings).foldl Phase.after session.state.phase := by
  induction happenings generalizing session with
  | nil => exact ⟨orderly, rfl⟩
  | cons happening later inductionHypothesis =>
      obtain ⟨orderlyThen, phase⟩ := inductionHypothesis (orderly.happen happening)
      refine ⟨orderlyThen, phase.trans ?_⟩
      rw [delivered, List.foldl_append, orderly.phase_happen]

theorem create_orderly (target : τ) (breakpoints : List Nat) : (create target breakpoints).Orderly := by
  obtain ⟨queue, state⟩ := create_eq target breakpoints
  refine .working queue ?_
  rw [state]
  rfl

theorem Orderly.stopped_of_final
    {session : Session τ} (orderly : session.Orderly) (final : session.state.phase.isFinal = true) :
    session.queue.stopped = true := by
  cases orderly with
  | working _ going =>
      rw [final] at going
      cases going
  | stopped stopped => exact stopped

/-- The phase of a session over any target is always the one that the last delivered event gives.  From
the moment when it is final it never changes; nothing is delivered, to the debugger or to the view, and
nothing published; the debugger keeps its breakpoints and whether it steps; and the target is only what
it becomes without the debugger. -/
theorem final_phases_absorbing
    (target : τ) (breakpoints : List Nat) (happenings : List (Happening τ)) :
    ((create target breakpoints).happenAll happenings).state.phase =
        .ofLast ((create target breakpoints).delivered happenings) ∧
      ∀ earlier later session,
        happenings = earlier ++ later →
        session = (create target breakpoints).happenAll earlier →
        session.state.phase.isFinal = true →
        ((create target breakpoints).happenAll happenings).state.phase = session.state.phase ∧
          ((create target breakpoints).happenAll happenings).state.published =
            session.state.published ∧
          ((create target breakpoints).happenAll happenings).state.debugger =
            session.state.debugger ∧
          ((create target breakpoints).happenAll happenings).state.target =
            later.foldl Happening.target session.state.target ∧
          session.delivered later = [] := by
  have fresh := create_orderly target breakpoints
  constructor
  · rw [(fresh.happenAll happenings).2, (create_eq target breakpoints).2]
    exact Phase.foldl_after _
  · intro earlier later session parts reached final
    have orderly := (fresh.happenAll earlier).1
    rw [← reached] at orderly
    obtain ⟨state, nothing⟩ := happenAll_of_stopped (orderly.stopped_of_final final) later
    have together : (create target breakpoints).happenAll happenings = session.happenAll later := by
      rw [parts, happenAll, List.foldl_append, reached]
      rfl
    rw [together, state]
    exact ⟨rfl, rfl, rfl, rfl, nothing⟩

end Happenings

theorem final_phases_absorbing_failed_resume :
    ∃ (earlier later : List (Happening StandIn)) (session : Session StandIn),
      earlier = [.signal (.suspended 2), .deliver, .become { failNext := true },
          .submit .disconnect, .deliver] ∧
        later = [.signal .terminated, .submit .terminate, .addBreakpoint 3, .deliver, .deliver] ∧
        session = (create ({} : StandIn) [2]).happenAll earlier ∧
        session.state.phase = .disconnected ∧
        session.state.target.resumes = 0 ∧
        ((create ({} : StandIn) [2]).happenAll (earlier ++ later)).state.phase =
          session.state.phase ∧
        ((create ({} : StandIn) [2]).happenAll (earlier ++ later)).state.debugger =
          session.state.debugger ∧
        session.delivered later = [] := by
  have disconnected : ((create ({} : StandIn) [2]).happenAll [.signal (.suspended 2), .deliver,
      .become { failNext := true }, .submit .disconnect, .deliver]).state.phase =
        .disconnected := by
    decide +kernel
  obtain ⟨phase, _, debugger, _, nothing⟩ := (final_phases_absorbing ({} : StandIn) [2] _).2 _
    [.signal .terminated, .submit .terminate, .addBreakpoint 3, .deliver, .deliver] _ rfl rfl
    (congrArg Phase.isFinal disconnected)
  exact ⟨_, _, _, rfl, rfl, rfl, disconnected, by decide +kernel, phase, debugger, nothing⟩

end Session

end ScriptDebugger
