import ScriptDebugger.Proofs.Script.Assignment
import ScriptDebugger.Proofs.Script.Edits
import ScriptDebugger.Proofs.Session.Settling

/-!
# Transparency of debugging

A debugged script computes what it computes without a debugger, except that a variable that is changed
while the script waits before a line is assigned by a line inserted there.  The requests that intervene
in a run are recorded with the line before which they were handled; at every moment what the script has
computed is explained by this record and the line that it is to execute next.
-/

namespace ScriptDebugger

/-! ## Interventions in a run -/

/-- What the requests of a session did to its run. -/
structure Interventions where
  /-- The changes of variables, as lines to insert. -/
  edits : List Edit := []
  /-- The line before which the run was asked to end. -/
  ended : Option Nat := none

/-- The interventions with a request that is handled before a line. -/
def Interventions.after (done : Interventions) (line : Nat) : Request → Interventions
  | .changeVariable name content =>
    if Text.isIdentifier name then
      { done with edits := done.edits ++ [⟨line, assignment name content⟩] }
    else done
  | .terminate => { done with ended := some line }
  | .resume _ | .disconnect | .breakpoint _ _ | .fetchVariables | .evaluate _
  | .fetchMemory _ _ => done

/-- The lines that a run with interventions has executed when it is over. -/
def Interventions.executed (done : Interventions) (script : List String) : List String :=
  match done.ended with
  | none => edited script done.edits
  | some line => edited (script.take (line - 1)) done.edits

/-- What lines compute from nothing. -/
def computed (lines : List String) : Variables × Array String :=
  (Interpreter.executeAll { script := [] } lines).values

/-- What a script of some lines computes when it is run without a debugger. -/
def undebugged (lines : List String) : Except InterpreterError (Variables × Array String) :=
  ((Interpreter.ofSource (Text.unlines lines) false).run (Observer.noting fun _ => false) []).map
    fun result => result.1.values

theorem undebugged_eq {lines : List String} (single : ∀ line ∈ lines, Text.IsLine line) :
    undebugged lines = .ok (computed lines) := by
  have script : (Interpreter.ofSource (Text.unlines lines) false).script = lines :=
    Text.lines_unlines single
  have same : (Interpreter.ofSource (Text.unlines lines) false).started.values =
      Interpreter.values { script := [] } :=
    rfl
  rw [undebugged, Interpreter.run_detached _ _ rfl rfl rfl, script]
  exact congrArg Except.ok (Interpreter.values_executeAll_congr lines same)

theorem computed_append (first second : List String) {interpreter : Interpreter}
    (same : interpreter.values = computed first) :
    (interpreter.executeAll second).values = computed (first ++ second) := by
  rw [computed, Interpreter.executeAll_append]
  exact Interpreter.values_executeAll_congr second same

namespace Interpreter

/-- The line that a script that has not ended is to execute next. -/
def nextLine (interpreter : Interpreter) : Nat :=
  match interpreter.status with
  | .suspended (some line) => line
  | _ => 1

theorem Paused.nextLine_bounds {interpreter : Interpreter} (paused : interpreter.Paused) :
    1 ≤ interpreter.nextLine ∧ interpreter.nextLine ≤ interpreter.script.length + 1 := by
  unfold nextLine
  split
  case h_1 line suspended =>
    obtain ⟨positive, within⟩ := paused.place _ suspended
    omega
  case h_2 => omega

/-- `Explained script interpreter done` means that what the script has computed follows from the
interventions `done` and from where it stands. -/
inductive Explained (script : List String) (interpreter : Interpreter) (done : Interventions) :
    Prop
  | unfinished :
      interpreter.status ≠ .terminated →
      (∀ edit ∈ done.edits, edit.line ≤ interpreter.nextLine) →
      done.ended = (if interpreter.terminateRequested then some interpreter.nextLine else none) →
      interpreter.values =
        computed (edited (script.take (interpreter.nextLine - 1)) done.edits) →
      Explained script interpreter done
  | finished :
      interpreter.status = .terminated →
      interpreter.values = computed (done.executed script) →
      Explained script interpreter done

theorem Explained.values_of_unfinished
    {script : List String} {interpreter : Interpreter} {done : Interventions}
    (explained : Explained script interpreter done)
    (unfinished : interpreter.status ≠ .terminated) :
    interpreter.values =
      computed (edited (script.take (interpreter.nextLine - 1)) done.edits) := by
  cases explained with
  | finished terminated => exact absurd terminated unfinished
  | unfinished _ _ _ values => exact values

theorem Explained.values_of_terminated
    {script : List String} {interpreter : Interpreter} {done : Interventions}
    (explained : Explained script interpreter done) (terminated : interpreter.status = .terminated) :
    interpreter.values = computed (done.executed script) := by
  cases explained with
  | finished _ values => exact values
  | unfinished unfinished => exact absurd terminated unfinished

theorem Departs.nextLine
    {interpreter : Interpreter} {place : Option Nat} {signal : Signal}
    (departs : Departs interpreter place signal) :
    interpreter.nextLine = place.getD 1 := by
  cases departs with
  | start unstarted => simp [Interpreter.nextLine, unstarted]
  | resume suspended => cases place <;> simp [Interpreter.nextLine, suspended]

/-- What a script executes on its way to a stop continues what it has executed. -/
theorem values_go
    {script : List String} {interpreter : Interpreter} {edits : List Edit} {line later : Nat}
    (stop : Option Nat) (positive : 1 ≤ line) (beyond : line ≤ later)
    (early : ∀ edit ∈ edits, edit.line ≤ line)
    (values : interpreter.values = computed (edited (script.take (line - 1)) edits)) :
    ((interpreter.going.executeAll (linesBetween script line later)).haltedAt stop).values =
      computed (edited (script.take (later - 1)) edits) := by
  have same : interpreter.going.values = computed (edited (script.take (line - 1)) edits) := values
  rw [haltedAt_values, computed_append _ _ same, edited_take script positive beyond early]

/-- A move keeps what a script has computed explained. -/
theorem Explained.move
    {script : List String} {interpreter moved : Interpreter} {done : Interventions}
    {stops : Nat → Prop} {signals : List Signal}
    (explained : Explained script interpreter done) (same : interpreter.script = script)
    (paused : interpreter.Paused) (move : Move stops interpreter moved signals) :
    Explained script moved done := by
  cases explained with
  | finished terminated values =>
      rw [move.stays terminated]
      exact .finished terminated values
  | unfinished unfinished early ended values =>
      cases move with
      | idle => exact .unfinished unfinished early ended values
      | hold unstarted =>
          have line : (interpreter.suspendedAt none).nextLine = interpreter.nextLine := by
            simp [nextLine, suspendedAt, unstarted]
          rw [← line] at early ended values
          exact .unfinished (by simp [suspendedAt]) early ended values
      | quitUnstarted _ ending =>
          rw [if_pos ending] at ended
          refine .finished rfl ?_
          rw [haltedAt_values, values, Interventions.executed, ended]
      | quit _ ending =>
          rw [if_pos ending] at ended
          refine .finished rfl ?_
          rw [haltedAt_values, values, Interventions.executed, ended]
      | @go place stop signal departs notEnding next =>
          -- No edit lies behind the next line, so up to the stop the edited script has the lines of
          -- the script and nothing else.
          obtain ⟨positive, within⟩ := paused.nextLine_bounds
          have line := departs.nextLine
          rw [same] at next within ⊢
          rw [← line]
          cases stop with
          | none =>
              refine .finished rfl ?_
              rw [Option.getD_none, values_go none positive within early values,
                Interventions.executed, ended, if_neg (by simp [notEnding]), Nat.add_sub_cancel,
                List.take_length]
          | some stop =>
              have beyond : interpreter.nextLine ≤ stop := by
                have after := next.1
                rw [line]
                cases place with
                | none => exact after
                | some number => exact Nat.le_of_lt after
              have moves := values_go (some stop) positive beyond early values
              refine .unfinished (by simp [haltedAt, suspendedAt]) ?_ ?_ moves
              · exact fun edit member => Nat.le_trans (early edit member) beyond
              · simpa [haltedAt, suspendedAt, going, notEnding] using ended

/-! ## Requests -/

theorem nextLine_congr
    {interpreter other : Interpreter} (status : other.status = interpreter.status) :
    other.nextLine = interpreter.nextLine := by
  unfold nextLine
  rw [status]

theorem Explained.congr
    {script : List String} {interpreter other : Interpreter} {done : Interventions}
    (explained : Explained script interpreter done)
    (status : other.status = interpreter.status)
    (ending : other.terminateRequested = interpreter.terminateRequested)
    (values : other.values = interpreter.values) :
    Explained script other done := by
  have line := nextLine_congr status
  cases explained with
  | finished terminated explanation =>
      exact .finished (status.trans terminated) (values.trans explanation)
  | unfinished unfinished early ended explanation =>
      rw [← line] at early ended explanation
      rw [← ending] at ended
      exact .unfinished (status ▸ unfinished) early ended (values.trans explanation)

theorem after_changeVariable
    (interpreter : Interpreter) {name : String} (content : String)
    (valid : Text.isIdentifier name = true) :
    interpreter.after (.changeVariable name content) =
      interpreter.execute (assignment name content) := by
  rw [after, setVariable_eq_execute interpreter content valid]
  rfl

/-- A line that is executed between two moves is explained by an edit before the next line. -/
theorem Explained.insert
    {script : List String} {interpreter : Interpreter} {done : Interventions} (text : String)
    (explained : Explained script interpreter done)
    (unfinished : interpreter.status ≠ .terminated) (same : interpreter.script = script)
    (paused : interpreter.Paused) :
    Explained script (interpreter.execute text)
      { done with edits := done.edits ++ [⟨interpreter.nextLine, text⟩] } := by
  obtain ⟨positive, within⟩ := paused.nextLine_bounds
  rw [same] at within
  have status : (interpreter.execute text).status = interpreter.status := by
    rw [execute_frame]
  have line := nextLine_congr status
  cases explained with
  | finished terminated => exact absurd terminated unfinished
  | unfinished _ early ended values =>
      refine .unfinished (status ▸ unfinished) ?_ ?_ ?_
      · intro edit member
        rw [line]
        rcases List.mem_append.mp member with before | now
        · exact early edit before
        · rw [List.mem_singleton.mp now]
      · rw [line, execute_terminateRequested]
        exact ended
      · rw [line, edited_concat _ _ positive within]
        exact computed_append _ [text] values

/-- A request keeps what a script has computed explained. -/
theorem Explained.request
    {script : List String} {interpreter : Interpreter} {done : Interventions}
    (explained : Explained script interpreter done)
    (unfinished : interpreter.status ≠ .terminated) (same : interpreter.script = script)
    (paused : interpreter.Paused) (request : Request) :
    Explained script (interpreter.after request) (done.after interpreter.nextLine request) := by
  cases request with
  | resume kind =>
      rw [after, resume_frame]
      exact explained.congr rfl rfl rfl
  | disconnect =>
      rw [after, resume_frame]
      exact explained.congr rfl rfl rfl
  | breakpoint | fetchVariables | evaluate | fetchMemory => exact explained
  | changeVariable name content =>
      by_cases valid : Text.isIdentifier name = true
      · rw [after_changeVariable interpreter content valid, Interventions.after, if_pos valid]
        exact explained.insert _ unfinished same paused
      · have refused : interpreter.after (.changeVariable name content) = interpreter := by
          simp [after, setVariable, attempt, valid]
        rw [refused, Interventions.after, if_neg valid]
        exact explained
  | terminate =>
      have asked : interpreter.after .terminate = { interpreter with terminateRequested := true } := by
        cases status : interpreter.status with
        | terminated => exact absurd status unfinished
        | notStarted | running | suspended => simp [after, terminate, attempt, status]
      rw [asked]
      cases explained with
      | finished terminated => exact absurd terminated unfinished
      | unfinished _ early ended values => exact .unfinished unfinished early rfl values

end Interpreter

namespace Session

/-! ## Steps of a session -/

/-- A start or a request, each of which is carried out until the session is settled. -/
inductive Step where
  | start
  | request (request : Request)
  deriving DecidableEq

/-- The session after a step.  A start that is refused changes nothing. -/
def advance (session : Session Interpreter) : Step → Session Interpreter
  | .start =>
    match session.start with
    | .ok begun => begun.settle
    | .error _ => session
  | .request request => (session.submit request).settle

/-- The session after steps. -/
def advances (session : Session Interpreter) (steps : List Step) : Session Interpreter :=
  steps.foldl advance session

/-- The interventions with those of a step.  Requests to a session whose queue is stopped are not
handled. -/
def intervene (session : Session Interpreter) (done : Interventions) : Step → Interventions
  | .start => done
  | .request request =>
    if session.queue.stopped then done
    else done.after session.state.target.nextLine request

/-- The interventions with those of steps. -/
def interventions (session : Session Interpreter) (done : Interventions) :
    List Step → Interventions
  | [] => done
  | step :: later => (session.advance step).interventions (session.intervene done step) later

/-- Where a settled session rests: at work, its script not ended, or closed, its script not waiting. -/
inductive Resting (session : Session Interpreter) : Prop
  | working :
      session.queue = workingQueue [] →
      session.state.target.status ≠ .terminated →
      session.state.target.Quiet →
      Resting session
  | closed :
      session.queue = closedQueue →
      (∀ place, session.state.target.status ≠ .suspended place) →
      Resting session

section Steps

variable {script : List String} {held : Bool} {session : Session Interpreter}
  {done : Interventions}

theorem Coherent.advance (coherent : session.Coherent script held) (step : Step) :
    (session.advance step).Coherent script held := by
  cases step with
  | request request => exact (coherent.act (.submit request)).settle
  | start =>
      have begun := coherent.act .start
      simp only [Session.act] at begun
      simp only [Session.advance]
      cases started : session.start with
      | ok begunSession =>
          rw [started] at begun
          exact begun.settle
      | error => exact coherent

/-- A session whose script has moved under a debugger is at work until the script ends. -/
theorem resting_of_move
    {settled : Session Interpreter} {interpreter moved : Interpreter} {stops : Nat → Prop}
    {signals : List Signal}
    (queue : settled.queue = if .terminated ∈ signals then closedQueue else workingQueue [])
    (target : settled.state.target = moved)
    (move : Interpreter.Move stops interpreter moved signals) (quiet : moved.Quiet)
    (attached : interpreter.attached = true) (unfinished : interpreter.status ≠ .terminated) :
    settled.Resting := by
  subst target
  by_cases told : Signal.terminated ∈ signals
  · rw [if_pos told] at queue
    exact .closed queue (by simp [move.ended told])
  · rw [if_neg told] at queue
    refine .working queue ?_ quiet
    intro terminated
    exact told (move.told_terminated attached unfinished terminated)

/-- A closed session whose script has moved alone is at rest. -/
theorem resting_of_alone
    {settled : Session Interpreter} {interpreter moved : Interpreter} {stops : Nat → Prop}
    {signals : List Signal} (queue : settled.queue = closedQueue)
    (target : settled.state.target = moved)
    (move : Interpreter.Move stops interpreter moved signals) (quiet : moved.Quiet)
    (detached : interpreter.attached = false)
    (resumed : ∀ place, interpreter.status = .suspended place →
      interpreter.resumeRequested = true) :
    settled.Resting := by
  subst target
  exact .closed queue (move.alone quiet detached resumed)

/-- A request to a session at work leaves it at rest and its script explained. -/
theorem advance_request
    (coherent : session.Coherent script held) (queue : session.queue = workingQueue [])
    (unfinished : session.state.target.status ≠ .terminated)
    (explained : Interpreter.Explained script session.state.target done) (request : Request) :
    (session.submit request).settle.Resting ∧
      Interpreter.Explained script (session.submit request).settle.state.target
        (done.after session.state.target.nextLine request) := by
  have attached := (coherent.serving queue).attached.mpr unfinished
  obtain ⟨moved, signals, move, quiet, settles⟩ := settle_submit coherent queue request
  have asked := explained.request unfinished coherent.script coherent.paused request
  have moves := asked.move (by simpa using coherent.script) (coherent.paused.after request) move
  refine ⟨?_, settles.target ▸ moves⟩
  have settledQueue := settles.queue
  by_cases leaves : request = .disconnect
  · subst leaves
    -- A disconnection also resumes, so a script that waited has gone on to its end.
    have resumed : ∀ place, (session.state.target.after .disconnect).status = .suspended place →
        (session.state.target.after .disconnect).resumeRequested = true := by
      intro place suspended
      rw [Interpreter.after_status] at suspended
      simp only [Interpreter.after, Interpreter.resume, suspended]
    rw [if_pos (.inl rfl)] at settledQueue
    exact resting_of_alone settledQueue settles.target move quiet
      (by simp [Interpreter.after_attached]) resumed
  · simp only [leaves, false_or] at settledQueue
    refine resting_of_move settledQueue settles.target move quiet ?_ ?_
    · simp [Interpreter.after_attached, leaves, attached]
    · simpa using unfinished

/-- A start leaves a session at rest and its script explained. -/
theorem advance_start
    (coherent : session.Coherent script held) (idle : session.Idle)
    (unstarted : session.state.target.status = .notStarted)
    (explained : Interpreter.Explained script session.state.target done) :
    (session.advance .start).Resting ∧
      Interpreter.Explained script (session.advance .start).state.target done := by
  obtain ⟨begun, moved, signals, started, move, quiet, _, settles⟩ :=
    settle_start coherent idle unstarted
  have moves := explained.move coherent.script coherent.paused move
  have settledQueue := settles.queue
  simp only [advance, started]
  refine ⟨?_, settles.target ▸ moves⟩
  rcases idle with working | closed
  · have attached := (coherent.serving working).attached.mpr (by simp [unstarted])
    rw [working] at settledQueue
    exact resting_of_move settledQueue settles.target move quiet attached (by simp [unstarted])
  · have stopped : session.queue.stopped = true := by
      rw [closed]
      rfl
    rw [closed, ite_self] at settledQueue
    exact resting_of_alone settledQueue settles.target move quiet (coherent.detached stopped)
      (by simp [unstarted])

/-- Every step leaves a session at rest and its script explained. -/
theorem advance_explained
    (coherent : session.Coherent script held) (resting : session.Resting)
    (explained : Interpreter.Explained script session.state.target done) (step : Step) :
    (session.advance step).Resting ∧
      Interpreter.Explained script (session.advance step).state.target
        (session.intervene done step) := by
  have idle : session.Idle := by
    cases resting with
    | working queue => exact .inl queue
    | closed queue => exact .inr queue
  cases step with
  | start =>
      by_cases unstarted : session.state.target.status = .notStarted
      · exact advance_start coherent idle unstarted explained
      · obtain ⟨error, refused⟩ :=
          Interpreter.run_of_started (Observer.noting session.state.debugger.stopsAt) [] unstarted
        have same : session.advance .start = session := by
          simp only [advance, start, refused]
        rw [same]
        exact ⟨resting, explained⟩
  | request request =>
      -- A closed session ignores the request, and nothing is recorded.
      cases resting with
      | working queue unfinished =>
          have live : ¬ session.queue.stopped = true := by
            rw [queue]
            exact Bool.false_ne_true
          rw [intervene, if_neg live]
          exact advance_request coherent queue unfinished explained request
      | closed queue elsewhere =>
          have stopped : session.queue.stopped = true := by
            rw [queue]
            rfl
          have ignored : session.submit request = session := by
            simp [submit, EventQueue.post, stopped]
          have same : session.advance (.request request) = session := by
            rw [advance, ignored, settle_of_quiet idle (Interpreter.quiet_of_status elsewhere)]
          rw [same, intervene, if_pos stopped]
          exact ⟨.closed queue elsewhere, explained⟩

theorem advances_explained
    (coherent : session.Coherent script held) (resting : session.Resting)
    (explained : Interpreter.Explained script session.state.target done) (steps : List Step) :
    Interpreter.Explained script (session.advances steps).state.target
        (session.interventions done steps) ∧
      (session.advances steps).Coherent script held := by
  induction steps generalizing session done with
  | nil => exact ⟨explained, coherent⟩
  | cons step later inductionHypothesis =>
      obtain ⟨restingNow, explainedNow⟩ := advance_explained coherent resting explained step
      exact inductionHypothesis (coherent.advance step) restingNow explainedNow

theorem isLine_after
    {line : Nat} {request : Request}
    (before : ∀ edit ∈ done.edits, Text.IsLine edit.text)
    (single : ∀ name content, request = .changeVariable name content → Text.IsLine content) :
    ∀ edit ∈ (done.after line request).edits, Text.IsLine edit.text := by
  cases request with
  | changeVariable name content =>
      rw [Interventions.after]
      split
      case isTrue valid =>
        intro edit member
        rcases List.mem_append.mp member with earlier | now
        · exact before edit earlier
        · rw [List.mem_singleton.mp now]
          exact isLine_assignment valid (single name content rfl)
      case isFalse => exact before
  | resume | terminate | disconnect | breakpoint | fetchVariables | evaluate | fetchMemory =>
      exact before

theorem isLine_interventions
    {steps : List Step} (before : ∀ edit ∈ done.edits, Text.IsLine edit.text)
    (single : ∀ name content, .request (.changeVariable name content) ∈ steps →
      Text.IsLine content) :
    ∀ edit ∈ (session.interventions done steps).edits, Text.IsLine edit.text := by
  induction steps generalizing session done with
  | nil => exact before
  | cons step later inductionHypothesis =>
      have now : ∀ edit ∈ (session.intervene done step).edits, Text.IsLine edit.text := by
        cases step with
        | start => exact before
        | request request =>
            rw [intervene]
            split
            · exact before
            · refine isLine_after before ?_
              rintro name content rfl
              exact single name content List.mem_cons_self
      exact inductionHypothesis now (fun name content member =>
        single name content (List.mem_cons_of_mem _ member))

end Steps

theorem create_resting (source : String) (held : Bool) (breakpoints : List Nat) :
    (create (Interpreter.ofSource source held) breakpoints).Resting ∧
      Interpreter.Explained (Text.lines source)
        (create (Interpreter.ofSource source held) breakpoints).state.target {} := by
  obtain ⟨queue, state⟩ := create_eq (Interpreter.ofSource source held) breakpoints
  rw [state]
  constructor
  · refine .working queue ?_ ?_
    all_goals rw [state]
    · simp [Target.setAttached, Interpreter.ofSource]
    · exact Interpreter.quiet_of_status (by simp [Target.setAttached, Interpreter.ofSource])
  · refine .unfinished ?_ ?_ rfl rfl
    · simp [Target.setAttached, Interpreter.ofSource]
    · simp

/-- Whatever is asked of a session, its script has computed what the script with the changes of
variables inserted as assignments computes without a debugger: up to the line before which it waits,
as a whole when it has ended by itself, and up to the line before which it was asked to end. -/
theorem debugging_transparent
    (source : String) (held : Bool) (breakpoints : List Nat) {steps : List Step}
    {session : Session Interpreter} {done : Interventions}
    (single : ∀ name content, .request (.changeVariable name content) ∈ steps →
      Text.IsLine content)
    (reached : (create (Interpreter.ofSource source held) breakpoints).advances steps = session)
    (recorded :
      (create (Interpreter.ofSource source held) breakpoints).interventions {} steps = done) :
    (∀ line,
      session.state.target.status = .suspended (some line) →
      ∃ text,
        1 ≤ line ∧
          (Text.lines source)[line - 1]? = some text ∧
          edited ((Text.lines source).take (line - 1)) done.edits ++ [text] <+:
            edited (Text.lines source) done.edits ∧
          undebugged (edited ((Text.lines source).take (line - 1)) done.edits) =
            .ok session.state.target.values) ∧
      (session.state.target.status = .notStarted ∨
          session.state.target.status = .suspended none →
        undebugged (edited [] done.edits) = .ok session.state.target.values) ∧
      (session.state.target.status = .terminated →
        done.ended = none →
        undebugged (edited (Text.lines source) done.edits) = .ok session.state.target.values) ∧
      ∀ line,
        session.state.target.status = .terminated →
        done.ended = some line →
        undebugged (edited ((Text.lines source).take (line - 1)) done.edits) =
          .ok session.state.target.values := by
  have fresh := create_coherent source held breakpoints
  obtain ⟨resting, unchanged⟩ := create_resting source held breakpoints
  obtain ⟨explained, coherent⟩ := advances_explained fresh resting unchanged steps
  have singleEdits : ∀ edit ∈ done.edits, Text.IsLine edit.text := by
    rw [← recorded]
    exact isLine_interventions (by simp) single
  rw [reached, recorded] at explained
  rw [reached] at coherent
  have runs : ∀ lines, (∀ line ∈ lines, line ∈ Text.lines source) →
      undebugged (edited lines done.edits) = .ok (computed (edited lines done.edits)) := by
    intro lines within
    exact undebugged_eq (isLine_editedFrom
      (fun line member => Text.isLine_of_mem_lines (within line member)) singleEdits)
  have cut : ∀ count, ∀ line ∈ (Text.lines source).take count, line ∈ Text.lines source :=
    fun _ _ member => List.mem_of_mem_take member
  refine ⟨?_, ?_, ?_, ?_⟩
  · intro line suspended
    have valid := coherent.paused.place _ suspended
    rw [coherent.script] at valid
    have inside : line - 1 < (Text.lines source).length := by
      obtain ⟨positive, within⟩ := valid
      omega
    have found := List.getElem?_eq_getElem inside
    have next : session.state.target.nextLine = line := by
      simp [Interpreter.nextLine, suspended]
    have values := explained.values_of_unfinished (by simp [suspended])
    rw [next] at values
    exact ⟨_, valid.1, found, edited_take_prefix done.edits found,
      (runs _ (cut _)).trans (congrArg Except.ok values.symm)⟩
  · intro waits
    have next : session.state.target.nextLine = 1 := by
      rcases waits with unstarted | suspended
      · simp [Interpreter.nextLine, unstarted]
      · simp [Interpreter.nextLine, suspended]
    have values := explained.values_of_unfinished (by rcases waits with h | h <;> simp [h])
    rw [next, Nat.sub_self, List.take_zero] at values
    exact (runs [] (by simp)).trans (congrArg Except.ok values.symm)
  · intro terminated complete
    have values := explained.values_of_terminated terminated
    rw [Interventions.executed, complete] at values
    exact (runs _ (fun _ member => member)).trans (congrArg Except.ok values.symm)
  · intro line terminated ended
    have values := explained.values_of_terminated terminated
    rw [Interventions.executed, ended] at values
    exact (runs _ (cut _)).trans (congrArg Except.ok values.symm)

theorem debugging_transparent_change :
    ∃ session done,
      (create (Interpreter.ofSource "x=1\ny=x+1\nz=y" false) [2]).advances
          [.start, .request (.changeVariable "x" "40+1"), .request (.resume .continue)] =
        session ∧
      (create (Interpreter.ofSource "x=1\ny=x+1\nz=y" false) [2]).interventions {}
          [.start, .request (.changeVariable "x" "40+1"), .request (.resume .continue)] =
        done ∧
      session.state.target.status = .terminated ∧
      done.ended = none ∧
      edited (Text.lines "x=1\ny=x+1\nz=y") done.edits = ["x=1", "x=40+1", "y=x+1", "z=y"] ∧
      undebugged (edited (Text.lines "x=1\ny=x+1\nz=y") done.edits) =
        .ok session.state.target.values := by
  have single : ∀ name content,
      .request (.changeVariable name content) ∈
        [.start, .request (.changeVariable "x" "40+1"), Step.request (.resume .continue)] →
      Text.IsLine content := by
    intro name content member
    have same : name = "x" ∧ content = "40+1" := by simpa using member
    rw [same.2]
    decide
  refine ⟨_, _, rfl, rfl, by decide +kernel, by decide +kernel, by decide +kernel, ?_⟩
  exact (debugging_transparent _ _ _ single rfl rfl).2.2.1 (by decide +kernel) (by decide +kernel)

end Session

end ScriptDebugger
