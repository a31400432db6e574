import ScriptDebugger.Debugging.Threads
import ScriptDebugger.Proofs.Session.Actions

/-!
# Actions as schedules

An action on a session is what its threads do if only one of them moves: a turn of the worker from one
event to the next, a run of the script from one stop to the next.  So whatever actions lead to, some
order of the threads' steps leads to it too.
-/

namespace ScriptDebugger

namespace Threads

theorem handledRequests_append (threads : Threads) (first second : List Turn) :
    threads.handledRequests (first ++ second) =
      threads.handledRequests first ++ (threads.run first).handledRequests second := by
  induction first generalizing threads with
  | nil => rfl
  | cons turn rest inductionHypothesis =>
      rw [List.cons_append, handledRequests, handledRequests, inductionHypothesis,
        List.append_assoc]
      rfl

/-- `Scheduled threads handled later` means that some schedule leads from `threads` to `later`, the
debugger handling the requests `handled`. -/
def Scheduled (threads : Threads) (handled : List Request) (later : Threads) : Prop :=
  ∃ schedule, threads.run schedule = later ∧ threads.handledRequests schedule = handled

section Scheduled

variable {threads later last : Threads} {handled others : List Request}

theorem Scheduled.refl (threads : Threads) : threads.Scheduled [] threads :=
  ⟨[], rfl, rfl⟩

theorem Scheduled.trans
    (first : threads.Scheduled handled later) (second : later.Scheduled others last) :
    threads.Scheduled (handled ++ others) last := by
  obtain ⟨before, rfl, rfl⟩ := first
  obtain ⟨after, rfl, rfl⟩ := second
  exact ⟨before ++ after, List.foldl_append, handledRequests_append threads before after⟩

theorem Scheduled.turn
    (turn : Turn) (stepped : threads.step turn = later)
    (rest : later.Scheduled handled last) :
    threads.Scheduled ((threads.handles? turn).toList ++ handled) last := by
  obtain ⟨after, rfl, rfl⟩ := rest
  exact ⟨turn :: after, by rw [run, List.foldl_cons, stepped]; rfl, by rw [handledRequests, stepped]⟩

/-- A step of the script, in which nothing is handled. -/
theorem Scheduled.script
    (stepped : threads.advanceScript = later) (rest : later.Scheduled handled last) :
    threads.Scheduled handled last :=
  rest.turn .script stepped

end Scheduled

/-! ## Runs of the script -/

/-- The session after a run that told signals. -/
def told (session : Session Interpreter) (target : Interpreter) (signals : List Signal) :
    Session Interpreter :=
  signals.foldl Session.signal (session.withTarget target)

/-- Where the thread of a script is between two runs. -/
def restingStage : Status → ScriptStage
  | .suspended line => .waiting line
  | .notStarted | .running | .terminated => .outside

/-- A session whose threads rest. -/
def resting (session : Session Interpreter) : Threads where
  session := session
  script := restingStage session.state.target.status

/-- `Realized session stage outcome` means that the thread of the script, left alone, makes from `stage`
on the run whose result is `outcome`, which notes its signals before the earlier ones. -/
def Realized (session : Session Interpreter) (stage : ScriptStage)
    (outcome : List Signal → Interpreter × List Signal) : Prop :=
  ∃ moved signals,
    (∀ earlier, outcome earlier = (moved, signals.reverse ++ earlier)) ∧
      Scheduled ⟨session, .waiting, stage⟩ [] (resting (told session moved signals))

section Realized

variable {session : Session Interpreter} {stage next : ScriptStage}
  {outcome later : List Signal → Interpreter × List Signal}

theorem Realized.congr
    (realized : Realized session stage later) (same : ∀ earlier, outcome earlier = later earlier) :
    Realized session stage outcome := by
  rwa [funext same]

/-- A step that tells nothing. -/
theorem Realized.step
    (target : Interpreter) (realized : Realized (session.withTarget target) next outcome)
    (stepped : advanceScript ⟨session, .waiting, stage⟩ =
      ⟨session.withTarget target, .waiting, next⟩) :
    Realized session stage outcome := by
  obtain ⟨moved, signals, result, rest⟩ := realized
  exact ⟨moved, signals, result, rest.script stepped⟩

/-- A step that changes nothing but where the thread is. -/
theorem Realized.goTo
    (realized : Realized session next outcome)
    (stepped : advanceScript ⟨session, .waiting, stage⟩ = ⟨session, .waiting, next⟩) :
    Realized session stage outcome :=
  Realized.step session.state.target realized stepped

/-- A step that tells a signal. -/
theorem Realized.tell
    {signal : Signal} (realized : Realized (session.signal signal) next later)
    (same : ∀ earlier, outcome earlier = later (signal :: earlier)) :
    Realized session (.telling signal next) outcome := by
  obtain ⟨moved, signals, result, rest⟩ := realized
  refine ⟨moved, signal :: signals, fun earlier => ?_, rest.script rfl⟩
  rw [same, result, List.reverse_cons, List.append_assoc]
  rfl

/-- A run that goes no further. -/
theorem Realized.rest
    (place : restingStage session.state.target.status = stage)
    (same : ∀ earlier, outcome earlier = (session.state.target, earlier)) :
    Realized session stage outcome := by
  refine ⟨session.state.target, [], same, ?_⟩
  rw [← place]
  exact Scheduled.refl _

end Realized

theorem realized_finish (stops : Nat → Bool) (session : Session Interpreter) :
    Realized session .ending (session.state.target.finish (Observer.noting stops)) := by
  let halted := session.withTarget (session.state.target.haltedAt none)
  cases attached : session.state.target.attached with
  | true =>
      refine ⟨session.state.target.haltedAt none, [.terminated], fun earlier => ?_, ?_⟩
      · rw [Interpreter.finish_noting stops earlier attached]
        rfl
      · refine Scheduled.script rfl ?_
        have told : advanceScript
            ⟨session.withTarget { session.state.target with status := .terminated }, .waiting,
              .detaching⟩ = ⟨halted, .waiting, .telling .terminated .outside⟩ := by
          simp only [advanceScript, Session.withTarget, attached, if_true]
          rfl
        exact Scheduled.script told (Scheduled.script rfl (Scheduled.refl _))
  | false =>
      refine ⟨session.state.target.haltedAt none, [], fun earlier => ?_, ?_⟩
      · rw [Interpreter.finish_detached _ earlier attached]
        rfl
      · refine Scheduled.script rfl ?_
        have untold : advanceScript
            ⟨session.withTarget { session.state.target with status := .terminated }, .waiting,
              .detaching⟩ = ⟨halted, .waiting, .outside⟩ := by
          simp only [advanceScript, Session.withTarget, attached, Bool.false_eq_true, if_false]
          rfl
        exact Scheduled.script untold (Scheduled.refl _)

theorem line?_of_drop
    {interpreter : Interpreter} {number : Nat} {line : String} {rest : List String}
    (lines : interpreter.script.drop number = line :: rest) :
    interpreter.line? (number + 1) = some line ∧ number + 1 ≤ interpreter.lineCount ∧
      interpreter.script.drop (number + 1) = rest := by
  have inside : number < interpreter.script.length := by
    apply Nat.lt_of_not_le
    intro outside
    rw [List.drop_eq_nil_of_le outside] at lines
    cases lines
  rw [List.drop_eq_getElem_cons inside] at lines
  obtain ⟨head, tail⟩ := List.cons.inj lines
  exact ⟨(List.getElem?_eq_getElem inside).trans (congrArg some head), inside, tail⟩

/-- The thread of a script is suspended and tells it. -/
theorem realized_entering (session : Session Interpreter) (line : Option Nat) :
    Realized session (.entering line) fun earlier =>
      (session.state.target.suspendedAt line, suspensionSignal line :: earlier) := by
  refine ⟨session.state.target.suspendedAt line, [suspensionSignal line], fun _ => rfl, ?_⟩
  exact Scheduled.script rfl (Scheduled.script rfl (Scheduled.refl _))

/-- The thread of a script that is not stopped before a line goes on to execute it. -/
theorem Realized.pass
    {session : Session Interpreter} {number : Nat}
    {outcome : List Signal → Interpreter × List Signal}
    (executed : Realized session (.executing number) outcome)
    (passes : session.state.target.attached = true →
      session.state.debugger.stopsAt number = false) :
    Realized session (.asking number) outcome := by
  cases attached : session.state.target.attached with
  | false => exact executed.goTo (by simp [advanceScript, attached])
  | true =>
      have tested : Realized session (.testing number) outcome :=
        executed.goTo (by simp [advanceScript, passes attached])
      exact tested.goTo (by simp [advanceScript, attached])

theorem runLines_passing
    {stops : Nat → Bool} {interpreter : Interpreter} {number : Nat} (line : String)
    (rest : List String) (going : interpreter.terminateRequested = false)
    (passes : interpreter.attached = true → stops number = false) :
    interpreter.runLines (Observer.noting stops) (line :: rest) number =
      (interpreter.execute line).runLines (Observer.noting stops) rest (number + 1) := by
  funext signals
  cases attached : interpreter.attached with
  | false => simp [Interpreter.runLines, going, attached]
  | true => simp [Interpreter.runLines, going, attached, Observer.noting, passes attached]

theorem runLines_stopping
    {stops : Nat → Bool} {interpreter : Interpreter} {number : Nat} (line : String)
    (rest : List String) (going : interpreter.terminateRequested = false)
    (attached : interpreter.attached = true) (stopped : stops number = true) :
    interpreter.runLines (Observer.noting stops) (line :: rest) number = fun signals =>
      (interpreter.suspendedAt (some number), .suspended number :: signals) := by
  funext signals
  simp [Interpreter.runLines, going, attached, Observer.noting, stopped, Interpreter.suspendedAt]

/-- The thread of a script makes the run from a line on. -/
theorem realized_lines
    (lines : List String) (number : Nat) (session : Session Interpreter)
    (place : session.state.target.script.drop number = lines) :
    Realized session (.before (number + 1))
      (session.state.target.runLines (Observer.noting session.state.debugger.stopsAt) lines
        (number + 1)) := by
  induction lines generalizing number session with
  | nil =>
      have beyond : ¬ number + 1 ≤ session.state.target.lineCount :=
        Nat.not_le_of_lt (Nat.lt_succ_of_le (List.drop_eq_nil_iff.mp place))
      refine (realized_finish session.state.debugger.stopsAt session).goTo ?_
      simp only [advanceScript, beyond, false_and, if_false]
  | cons line rest inductionHypothesis =>
      obtain ⟨text, within, later⟩ := line?_of_drop place
      cases ending : session.state.target.terminateRequested with
      | true =>
          have finished := realized_finish session.state.debugger.stopsAt session
          refine (finished.goTo ?_).congr fun signals =>
            Interpreter.runLines_of_terminateRequested _ _ _ signals ending
          simp [advanceScript, ending]
      | false =>
          suffices asked : Realized session (.asking (number + 1))
              (session.state.target.runLines (Observer.noting session.state.debugger.stopsAt)
                (line :: rest) (number + 1)) from
            asked.goTo (by simp [advanceScript, within, ending])
          by_cases stopped : session.state.target.attached = true ∧
              session.state.debugger.stopsAt (number + 1) = true
          · obtain ⟨attached, stops⟩ := stopped
            rw [runLines_stopping line rest ending attached stops]
            have tested : Realized session (.testing (number + 1)) _ :=
              (realized_entering session (some (number + 1))).goTo (by simp [advanceScript, stops])
            exact tested.goTo (by simp [advanceScript, attached])
          · have passes : session.state.target.attached = true →
                session.state.debugger.stopsAt (number + 1) = false := by
              simpa using stopped
            rw [runLines_passing line rest ending passes]
            -- Executing the line leads before the next one.
            have script : (session.withTarget
                (session.state.target.execute line)).state.target.script =
                session.state.target.script := by
              simp only [Session.withTarget]
              rw [Interpreter.execute_frame]
            have next := inductionHypothesis (number + 1)
              (session.withTarget (session.state.target.execute line)) (by rw [script, later])
            refine Realized.pass (Realized.step _ next ?_) passes
            simp only [advanceScript, text, Option.elim_some]

/-- The thread of a script goes on after a suspension. -/
theorem realized_afterSuspension
    {place : Option Nat} (session : Session Interpreter)
    (valid : Interpreter.ValidPlace session.state.target.script place) :
    Realized session (afterSuspension place)
      ((session.state.target.executeAll (linesBetween session.state.target.script (place.getD 1)
          (place.getD 0 + 1))).runLines
        (Observer.noting session.state.debugger.stopsAt)
        (session.state.target.script.drop (place.getD 0)) (place.getD 0 + 1)) := by
  cases place with
  | none =>
      have nothing : linesBetween session.state.target.script 1 1 = [] := by simp [linesBetween]
      rw [Option.getD_none, Option.getD_none, nothing]
      exact realized_lines _ 0 session rfl
  | some number =>
      obtain ⟨text, shape⟩ := Interpreter.drop_line valid.1 valid.2
      have first : linesBetween session.state.target.script number (number + 1) = [text] := by
        rw [linesBetween, shape, Nat.add_sub_cancel_left]
        rfl
      have line : session.state.target.line? number = some text := by
        obtain ⟨line, _⟩ := line?_of_drop shape
        rwa [Nat.sub_add_cancel valid.1] at line
      have script : (session.state.target.execute text).script = session.state.target.script := by
        rw [Interpreter.execute_frame]
      rw [Option.getD_some, Option.getD_some, first]
      refine Realized.step (session.state.target.execute text)
        (realized_lines _ number _ (congrArg (List.drop number) script)) ?_
      simp only [afterSuspension, advanceScript, line, Option.elim_some]

/-- The thread of a suspended script goes on as far as it was asked to. -/
theorem realized_proceed
    {place : Option Nat} (session : Session Interpreter)
    (suspended : session.state.target.status = .suspended place)
    (valid : Interpreter.ValidPlace session.state.target.script place) :
    Realized session (.waiting place)
      (session.state.target.proceed (Observer.noting session.state.debugger.stopsAt)) := by
  cases ending : session.state.target.terminateRequested with
  | true =>
      have finished := realized_finish session.state.debugger.stopsAt session
      suffices quits : Realized session (afterQuitting place)
          (session.state.target.finish (Observer.noting session.state.debugger.stopsAt)) from
        (quits.goTo (by simp [advanceScript, ending])).congr fun signals =>
          Interpreter.proceed_of_terminateRequested _ signals suspended ending
      cases place with
      | none => exact finished.goTo (by simp [afterQuitting, advanceScript, ending])
      | some number => exact finished
  | false =>
      cases resumed : session.state.target.resumeRequested with
      | false =>
          refine Realized.rest (by rw [suspended, restingStage]) fun earlier => ?_
          exact Interpreter.proceed_idle _ earlier fun _ _ => ⟨ending, resumed⟩
      | true =>
          -- What is told of the resumption is told before all that the run tells then.
          let going := session.withTarget session.state.target.going
          suffices leaves : Realized going (.resuming place)
              (session.state.target.proceed (Observer.noting session.state.debugger.stopsAt)) by
            refine Realized.step session.state.target.going leaves ?_
            simp [advanceScript, ending, resumed, Interpreter.going]
          cases attached : session.state.target.attached with
          | true =>
              have went := realized_afterSuspension (going.signal .resumed) valid
              refine Realized.goTo (Realized.tell went fun earlier => ?_)
                (by simp [going, advanceScript, Session.withTarget, Interpreter.going, attached])
              refine Interpreter.proceed_of_resumeRequested _ suspended resumed ending valid ?_
              simp [Interpreter.leaveSuspension, attached, Interpreter.going, Observer.noting]
          | false =>
              have went := realized_afterSuspension going valid
              refine (went.goTo ?_).congr fun earlier => ?_
              · simp [going, advanceScript, Session.withTarget, Interpreter.going, attached]
              · refine Interpreter.proceed_of_resumeRequested _ suspended resumed ending valid ?_
                simp [Interpreter.leaveSuspension, attached, Interpreter.going]

/-- The thread of a script that is started makes its run. -/
theorem realized_start
    (session : Session Interpreter) (unstarted : session.state.target.status = .notStarted) :
    ∃ outcome,
      (∀ earlier, session.state.target.run
        (Observer.noting session.state.debugger.stopsAt) earlier = .ok (outcome earlier)) ∧
      Realized (session.withTarget session.state.target.started) .loading outcome := by
  let started := session.withTarget session.state.target.started
  cases attached : session.state.target.attached with
  | false =>
      refine ⟨_, fun earlier =>
        Interpreter.run_detached_eq _ earlier unstarted attached, ?_⟩
      refine (realized_lines session.state.target.script 0 started rfl).goTo ?_
      simp [started, advanceScript, Session.withTarget, Interpreter.started, attached]
  | true =>
      cases held : session.state.target.suspendOnLoad with
      | false =>
          have ran := realized_lines session.state.target.script 0 (started.signal .loaded) rfl
          refine ⟨_, fun earlier =>
            Interpreter.run_noting_eq _ earlier unstarted attached held, ?_⟩
          refine Realized.goTo (Realized.tell ran fun _ => rfl) ?_
          simp [advanceScript, Session.withTarget, Interpreter.started, attached, held]
      | true =>
          let suspended := started.withTarget (session.state.target.started.suspendedAt none)
          have went := realized_proceed (suspended.signal .loaded) rfl trivial
          have told : Realized suspended (.telling .loaded (.waiting none)) _ :=
            went.tell fun _ => rfl
          have entered : Realized started (.entering none) _ := told.step _ rfl
          refine ⟨_, fun earlier => ?_, entered.goTo ?_⟩
          · have attachedNow : session.state.target.started.attached = true := attached
            have heldNow : session.state.target.started.suspendOnLoad = true := held
            rw [Interpreter.run, Interpreter.start_of_notStarted unstarted]
            simp only [if_pos attachedNow, if_pos heldNow]
            rfl
          · simp [started, advanceScript, Session.withTarget, Interpreter.started, attached, held]

/-! ## Turns of the worker -/

/-- What the accesses of a request come to if nobody interferes. -/
theorem scheduled_serving
    (state : SessionState Interpreter) (pending : List Event) (requested : LineSet)
    (lastId received : Nat) (request : Request) (script : ScriptStage) :
    Scheduled
      ⟨⟨workingQueue pending, state, requested, lastId, received⟩,
        .serving (.request request) request.accesses, script⟩
      []
      ⟨⟨if request = .disconnect then stoppedQueue pending
          else workingQueue (pending ++
            (state.debugger.handle state.target request).notices.map .notice),
        { state with
          debugger := (state.debugger.handle state.target request).debugger
          target := (state.debugger.handle state.target request).target },
        requested, lastId, received⟩,
        .serving (.request request) [], script⟩ := by
  cases request with
  | resume kind =>
      refine ⟨[.worker, .worker], ?_, rfl⟩
      simp [run, step, advanceWorker, Request.accesses, Session.access, Session.withTarget,
        Session.withDebugger, Debugger.handle, Debugger.handleResume, Target.resume]
  | terminate =>
      refine ⟨[.worker], ?_, rfl⟩
      cases ending : state.target.terminate <;>
        simp [run, step, advanceWorker, Request.accesses, Session.access, Session.withTarget,
          Debugger.handle, Debugger.handleTerminate, Target.terminate, Interpreter.attempt, ending]
  | disconnect =>
      refine ⟨[.worker, .worker, .worker], ?_, rfl⟩
      simp [run, step, advanceWorker, Request.accesses, Session.access, Session.withTarget,
        Debugger.handle, Debugger.handleDisconnect, Target.resume, Target.setAttached, stoppedQueue]
  | breakpoint marker change =>
      refine ⟨[.worker], ?_, rfl⟩
      simp [run, step, advanceWorker, Request.accesses, Session.access, Session.withDebugger,
        Debugger.handle]
  | fetchVariables =>
      refine ⟨[.worker, .worker], ?_, rfl⟩
      simp [run, step, advanceWorker, Request.accesses, Session.access, Debugger.handle,
        Debugger.handleVariables, Target.bindings]
  | changeVariable name content =>
      cases changed : state.target.setVariable name content with
      | ok target =>
          refine ⟨[.worker, .worker, .worker], ?_, ?_⟩ <;>
          simp [run, step, advanceWorker, Request.accesses, Session.access, Session.withTarget,
            Debugger.handle, Debugger.handleChange, Debugger.handleVariables, Target.bindings,
            Target.setVariable, Interpreter.attempt, changed, handledRequests, handles?]
      | error cause =>
          refine ⟨[.worker], ?_, rfl⟩
          simp [run, step, advanceWorker, Request.accesses, Session.access, Debugger.handle,
            Debugger.handleChange, Target.setVariable, Interpreter.attempt, changed]
  | evaluate evaluation =>
      cases value : state.target.evaluate evaluation.expression with
      | ok text =>
          refine ⟨[.worker, .worker], ?_, ?_⟩ <;>
          simp [run, step, advanceWorker, Request.accesses, Session.access, Debugger.handle,
            Debugger.handleEvaluate, Target.evaluate, value, handledRequests, handles?]
      | error cause =>
          refine ⟨[.worker], ?_, rfl⟩
          simp [run, step, advanceWorker, Request.accesses, Session.access, Debugger.handle,
            Debugger.handleEvaluate, Target.evaluate, value]
  | fetchMemory start length =>
      refine ⟨[.worker, .worker], ?_, rfl⟩
      simp [run, step, advanceWorker, Request.accesses, Session.access, Debugger.handle,
        Debugger.handleMemory, Target.memory]

/-- A turn of the worker, from one event to the next. -/
theorem scheduled_deliver
    {script : List String} {held : Bool} {session : Session Interpreter}
    (coherent : session.Coherent script held) :
    Scheduled (resting session) (session.handles? .deliver).toList
      (resting (session.act .deliver)) := by
  obtain ⟨queue, state, requested, lastId, received⟩ := session
  rcases coherent.queue with ⟨pending, working, _⟩ | ⟨stopped, _⟩
  · obtain rfl : queue = workingQueue pending := working
    cases pending with
    | nil => exact Scheduled.refl _
    | cons event rest =>
        cases event with
        | notice notice =>
            by_cases final : notice = .terminated
            · subst final
              exact ⟨[.worker, .worker, .worker, .worker], rfl, rfl⟩
            · have turned := turn_notice rest state final
              refine ⟨[.worker, .worker, .worker], ?_, rfl⟩
              simp only [Session.act, turned]
              cases notice with
              | terminated => exact absurd rfl final
              | started | suspended | resumed | bindings | evaluated | memory => rfl
        | request request =>
            have served := scheduled_serving state rest requested lastId received request
              (restingStage state.target.status)
            have stays : (state.handled request).target.status = state.target.status := by
              rw [SessionState.handled_eq]
              exact Interpreter.after_status state.target request
            simp only [Session.act, turn_request, resting, stays]
            exact Scheduled.turn .worker rfl (served.trans
              (Scheduled.turn .worker rfl (Scheduled.turn .worker rfl (Scheduled.refl _))))
  · have stoppedNow : queue.stopped = true := stopped
    cases worker : queue.worker with
    | running =>
        refine ⟨[.worker, .worker], ?_, ?_⟩ <;>
        simp [resting, run, step, advanceWorker, Session.act, Session.handles?, EventQueue.turn,
          worker, stoppedNow, handledRequests, handles?]
    | notStarted | finished =>
        refine ⟨[], ?_, ?_⟩ <;>
        simp [run, Session.act, Session.handles?, EventQueue.turn, worker, stoppedNow,
          handledRequests]

/-- Every action is made by the threads, one of them moving. -/
theorem scheduled_act
    {script : List String} {held : Bool} {session : Session Interpreter}
    (coherent : session.Coherent script held) (action : Session.Action) :
    Scheduled (resting session) (session.handles? action).toList
      (resting (session.act action)) := by
  cases action with
  | submit request => exact ⟨[.submit request], rfl, rfl⟩
  | deliver => exact scheduled_deliver coherent
  | start =>
      by_cases unstarted : session.state.target.status = .notStarted
      · obtain ⟨outcome, ran, moved, signals, result, rest⟩ := realized_start session unstarted
        have acted : session.act .start = told session moved signals := by
          simp only [Session.act, Session.start, ran [], result, List.append_nil,
            List.reverse_reverse]
          rfl
        rw [acted]
        refine Scheduled.turn .start ?_ rest
        simp only [resting, step, Interpreter.start_of_notStarted unstarted]
      · obtain ⟨error, refused⟩ :=
          Interpreter.run_of_started (Observer.noting session.state.debugger.stopsAt) [] unstarted
        have same : session.act .start = session := by
          simp only [Session.act, Session.start, refused]
        rw [same]
        exact Scheduled.refl _
  | proceed =>
      by_cases waits : ∃ place, session.state.target.status = .suspended place
      · obtain ⟨place, suspended⟩ := waits
        obtain ⟨moved, signals, result, rest⟩ :=
          realized_proceed session suspended (coherent.paused.place place suspended)
        have acted : session.act .proceed = told session moved signals := by
          simp only [Session.act, Session.proceed, Target.proceed, result, List.append_nil,
            List.reverse_reverse]
          rfl
        rw [acted, resting, suspended]
        exact rest
      · have same : session.act .proceed = session := by
          have idle := Interpreter.proceed_idle
            (Observer.noting session.state.debugger.stopsAt) [] fun place suspended =>
              absurd ⟨place, suspended⟩ waits
          simp only [Session.act, Session.proceed, Target.proceed, idle]
          rfl
        rw [same]
        exact Scheduled.refl _

theorem scheduled_actions
    {script : List String} {held : Bool} {session : Session Interpreter}
    (coherent : session.Coherent script held) (actions : List Session.Action) :
    Scheduled (resting session) (session.handledRequests actions)
      (resting (session.acts actions)) := by
  induction actions generalizing session with
  | nil => exact Scheduled.refl _
  | cons action later inductionHypothesis =>
      exact (scheduled_act coherent action).trans (inductionHypothesis (coherent.act action))

/-- Whatever actions lead to, some order of the threads' steps leads to. -/
theorem scheduled_acts
    (source : String) (held : Bool) (breakpoints : List Nat) (actions : List Session.Action) :
    (opened source held breakpoints).Scheduled
      ((Session.create (.ofSource source held) breakpoints).handledRequests actions)
      (resting ((Session.create (.ofSource source held) breakpoints).acts actions)) := by
  have rests : opened source held breakpoints =
      resting (.create (.ofSource source held) breakpoints) := by
    obtain ⟨_, state⟩ := Session.create_eq (Interpreter.ofSource source held) breakpoints
    simp only [opened, resting, state]
    rfl
  rw [rests]
  exact scheduled_actions (Session.create_coherent source held breakpoints) actions

end Threads

end ScriptDebugger
