import ScriptDebugger.Proofs.Console.Loop
import ScriptDebugger.Proofs.Session.Memory
import ScriptDebugger.Proofs.Session.View

/-!
# Quitting

When the console quits, by a typed line, at the end of the input or because it is told of the end of
the script, the script has ended, or it is still under control and ends when it is asked to, or it was
let go and has run to its end.  The lines of the output are shown one after the other, and those that
were not shown when the console quit are left for the end.
-/

namespace ScriptDebugger

/-! ## Moves and the end of a script -/

namespace Interpreter

namespace Move

variable {stops : Nat → Prop} {interpreter moved : Interpreter} {signals : List Signal}

theorem started
    (move : Move stops interpreter moved signals) (begun : interpreter.status ≠ .notStarted) :
    moved.status ≠ .notStarted := by
  cases move with
  | idle => exact begun
  | hold unstarted => exact absurd unstarted begun
  | quitUnstarted unstarted => exact absurd unstarted begun
  | quit => simp [haltedAt]
  | @go place stop =>
      rw [haltedAt_status]
      cases stop <;> simp [Status.ofStop]

/-- A script that waits and is asked to end does so. -/
theorem of_terminated
    {place : Option Nat} (move : Move stops interpreter moved signals) (quiet : moved.Quiet)
    (suspended : interpreter.status = .suspended place)
    (ending : interpreter.terminateRequested = true) :
    moved.status = .terminated := by
  cases move with
  | idle =>
      have waiting := (quiet place suspended).1
      rw [ending] at waiting
      cases waiting
  | hold unstarted => simp [suspended] at unstarted
  | quitUnstarted => rfl
  | quit => rfl
  | go _ going => simp [ending] at going

end Move

end Interpreter

theorem SessionState.handled_output (state : SessionState Interpreter) (request : Request) :
    (state.handled request).target.output = state.target.output := by
  rw [SessionState.handled_eq, Interpreter.output_after]

/-! ## Sessions at the prompt -/

namespace Session

/-- What holds of a session at the prompt whatever happens to it: besides what holds of every session,
its script is started, and has ended if its end is published. -/
structure Attended (script : List String) (held : Bool) (session : Session Interpreter) : Prop where
  coherent : session.Coherent script held
  viewed : ∃ handled, session.Viewed handled
  started : session.state.target.status ≠ .notStarted
  ended : .terminated ∈ session.state.published → session.state.target.status = .terminated

section Attended

variable {script : List String} {held : Bool} {session changed : Session Interpreter}
  {handled : Option Request}

theorem Change.output (change : Change session handled changed) :
    session.state.target.output.toList <+: changed.state.target.output.toList := by
  cases change with
  | moves _ move => exact move.output
  | movesAlone _ move => exact move.output
  | @handles request => exact session.state.handled_output request ▸ List.prefix_rfl
  | leaves => exact session.state.handled_output .disconnect ▸ List.prefix_rfl
  | stays | submits | tells | ends | closes => exact List.prefix_rfl

theorem Change.started
    (change : Change session handled changed)
    (begun : session.state.target.status ≠ .notStarted) :
    changed.state.target.status ≠ .notStarted := by
  cases change with
  | moves _ move => exact move.started begun
  | movesAlone _ move => exact move.started begun
  | handles => rwa [SessionState.handled_eq, Interpreter.after_status]
  | leaves => rwa [SessionState.handled_eq, Interpreter.after_status]
  | stays | submits | tells | ends | closes => exact begun

theorem Change.terminated
    (change : Change session handled changed)
    (ended : session.state.target.status = .terminated) :
    changed.state.target.status = .terminated := by
  cases change with
  | moves _ move => rwa [move.stays ended]
  | movesAlone _ move => rwa [move.stays ended]
  | handles => rwa [SessionState.handled_eq, Interpreter.after_status]
  | leaves => rwa [SessionState.handled_eq, Interpreter.after_status]
  | stays | submits | tells | ends | closes => exact ended

/-- The end is published only when the script has ended. -/
theorem Change.published_terminated
    (change : Change session handled changed) (coherent : session.Coherent script held)
    (told : .terminated ∈ changed.state.published) :
    .terminated ∈ session.state.published ∨ session.state.target.status = .terminated := by
  cases change with
  | @tells notice rest queue other =>
      have published : .terminated ∈ session.state.published ++ [notice] := told
      exact .inl (by simpa [other.symm] using published)
  | ends queue => exact .inr ((coherent.serving queue).ended List.mem_cons_self)
  | stays | submits | moves | handles | leaves | movesAlone | closes => exact .inl told

theorem Attended.change
    (attended : session.Attended script held) (change : Change session handled changed) :
    changed.Attended script held where
  coherent := change.coherent attended.coherent
  viewed :=
    have ⟨_, viewed⟩ := attended.viewed
    ⟨_, change.viewed attended.coherent viewed⟩
  started := change.started attended.started
  ended := by
    intro told
    apply change.terminated
    rcases change.published_terminated attended.coherent told with earlier | ended
    · exact attended.ended earlier
    · exact ended

theorem Attended.act (attended : session.Attended script held) (action : Action) :
    (session.act action).Attended script held :=
  attended.change (attended.coherent.change action)

theorem Viewed.congr
    {handled : List Request} (viewed : session.Viewed handled)
    (queue : changed.queue = session.queue) (state : changed.state = session.state) :
    changed.Viewed handled := by
  cases viewed with
  | working kept queueNow phase => exact .working kept (queue.trans queueNow) (state ▸ phase)
  | ended kept stopped phase terminated =>
      exact .ended kept (queue ▸ stopped) (state ▸ phase) (state ▸ terminated)
  | left leaving stopped phase resumed =>
      exact .left leaving (queue ▸ stopped) (state ▸ phase) (state ▸ resumed)

theorem Attended.congr
    (attended : session.Attended script held) (queue : changed.queue = session.queue)
    (state : changed.state = session.state) :
    changed.Attended script held := by
  obtain ⟨coherent, ⟨handled, viewed⟩, started, ended⟩ := attended
  refine ⟨coherent.congr queue state, ⟨handled, viewed.congr queue state⟩, ?_, ?_⟩
  · rwa [state]
  · rwa [state]

theorem output_acts (coherent : session.Coherent script held) (actions : List Action) :
    session.state.target.output.toList <+: (session.acts actions).state.target.output.toList := by
  induction actions generalizing session with
  | nil => exact List.prefix_rfl
  | cons action later inductionHypothesis =>
      have change := coherent.change action
      exact change.output.trans (inductionHypothesis (change.coherent coherent))

theorem terminated_acts
    (coherent : session.Coherent script held) (ended : session.state.target.status = .terminated)
    (actions : List Action) :
    (session.acts actions).state.target.status = .terminated := by
  induction actions generalizing session with
  | nil => exact ended
  | cons action later inductionHypothesis =>
      have change := coherent.change action
      exact inductionHypothesis (change.coherent coherent) (change.terminated ended)

theorem Attended.acts (attended : session.Attended script held) (actions : List Action) :
    (session.acts actions).Attended script held := by
  induction actions generalizing session with
  | nil => exact attended
  | cons action later inductionHypothesis => exact inductionHypothesis (attended.act action)

/-- A settled session in a final phase has a script that has ended. -/
theorem Attended.ended_of_final
    (attended : session.Attended script held) (settled : session.Settled)
    (final : session.state.phase = .terminated ∨ session.state.phase = .disconnected) :
    session.state.target.status = .terminated := by
  obtain ⟨handled, viewed⟩ := attended.viewed
  have notRunning := attended.coherent.paused.notRunning
  have started := attended.started
  cases viewed with
  | ended _ _ _ terminated => exact terminated
  | @working pending _ queue phase =>
      have none : pending = [] := by
        rw [← settled.pending, queue]
        rfl
      rw [none] at phase
      have known : session.state.phase = .ofStatus session.state.target.status := phase
      rw [known] at final
      cases status : session.state.target.status with
      | terminated => rfl
      | notStarted => exact absurd status started
      | running => exact absurd status notRunning
      | suspended place =>
          rw [status] at final
          cases place <;> simp [Phase.ofStatus] at final
  | left _ _ _ resumed =>
      cases status : session.state.target.status with
      | terminated => rfl
      | notStarted => exact absurd status started
      | running => exact absurd status notRunning
      | suspended place =>
          -- A script that waits has been resumed, so the session would not be settled.
          have waiting := (settled.quiet place status).2
          rw [resumed place status] at waiting
          cases waiting

/-- A settled session that is asked to end its script does so. -/
theorem Attended.ended_of_terminate
    (attended : session.Attended script held) (settled : session.Settled)
    (going : session.state.phase ≠ .terminated ∧ session.state.phase ≠ .disconnected) :
    (session.submit .terminate).settle.state.target.status = .terminated := by
  obtain ⟨handled, viewed⟩ := attended.viewed
  cases viewed with
  | ended _ _ phase => exact absurd phase going.1
  | left _ _ phase => exact absurd phase going.2
  | @working pending _ queue phase =>
      have none : pending = [] := by
        rw [← settled.pending, queue]
        rfl
      rw [none] at queue
      obtain ⟨moved, signals, move, quiet, settles⟩ :=
        settle_submit attended.coherent queue .terminate
      rw [settles.target]
      cases status : session.state.target.status with
      | notStarted => exact absurd status attended.started
      | running => exact absurd status attended.coherent.paused.notRunning
      | terminated =>
          have ended : (session.state.target.after .terminate).status = .terminated := by
            rw [Interpreter.after_status, status]
          rwa [move.stays ended]
      | suspended place =>
          have ending : (session.state.target.after .terminate).terminateRequested = true := by
            simp [Interpreter.after, Interpreter.terminate, status, Interpreter.attempt]
          have suspended : (session.state.target.after .terminate).status = .suspended place := by
            rw [Interpreter.after_status, status]
          exact move.of_terminated quiet suspended ending

end Attended

theorem status_of_start
    {script : List String} {held : Bool} {session begun : Session Interpreter}
    (coherent : session.Coherent script held) (queue : session.queue = workingQueue [])
    (unstarted : session.state.target.status = .notStarted) (started : session.start = .ok begun) :
    begun.state.target.status ≠ .notStarted := by
  obtain ⟨moved, signals, ran, _, _, begins⟩ :=
    Interpreter.run_moves session.state.debugger.stopsAt coherent.paused unstarted
  have goingQueue : { session with state := { session.state with target := moved } }.queue =
      workingQueue [] := queue
  simp only [start, ran, List.reverse_reverse, Except.ok.injEq] at started
  rw [← started, signals_workingQueue signals goingQueue]
  exact begins

theorem create_attended
    (source : String) (held : Bool) (breakpoints : List Nat) {begun : Session Interpreter}
    (started : (create (Interpreter.ofSource source held) breakpoints).start = .ok begun) :
    begun.settle.Attended (Text.lines source) held := by
  have coherent := create_coherent source held breakpoints
  have viewed := create_viewed source held breakpoints
  obtain ⟨queue, state⟩ := create_eq (Interpreter.ofSource source held) breakpoints
  have change := coherent.change .start
  simp only [act, started] at change
  have attended : begun.Attended (Text.lines source) held := by
    refine ⟨change.coherent coherent, ⟨_, change.viewed coherent viewed⟩,
      status_of_start coherent queue (by rw [state]; rfl) started, ?_⟩
    intro told
    apply change.terminated
    rcases change.published_terminated coherent told with earlier | ended
    · rw [state] at earlier
      cases earlier
    · exact ended
  obtain ⟨actions, settles⟩ := begun.settle_eq_acts
  rw [settles]
  exact attended.acts actions

end Session

/-! ## What the loop shows -/

namespace Console

/-- The texts that were printed for the output. -/
def shownOutput (record : List (Source × List String)) : List String :=
  (record.filter fun entry => entry.1 = .output).flatMap Prod.snd

theorem shownOutput_cons
    (source : Source) (printed : List String) (record : List (Source × List String)) :
    shownOutput ((source, printed) :: record) =
      (if source = .output then printed else []) ++ shownOutput record := by
  unfold shownOutput
  by_cases taken : source = .output <;> simp [taken]

/-- A console at work: the output is open, and no line is shown that was not written. -/
structure Attended (script : List String) (held : Bool) (console : Console) : Prop where
  session : console.session.Attended script held
  outputOpen : console.outputClosed = false
  within : console.shown ≤ console.interpreter.output.toList.length

/-- The lines of the output that were shown, as they were shown. -/
def shownLines (console : Console) : List String :=
  (console.interpreter.output.toList.take console.shown).map outputLine

section Turns

variable {script : List String} {held : Bool} {console : Console}

theorem Asks.attended
    {asked : Console} (asks : console.Asks asked) (attended : console.Attended script held) :
    asked.Attended script held ∧ asked.shownLines = console.shownLines := by
  obtain ⟨shown, outputClosed, before, queue, state, submitted⟩ := asks
  have attendedBefore := attended.session.congr queue state
  have session : asked.session.Attended script held ∧ asked.session.state = before.state := by
    rcases submitted with same | ⟨request, submitted⟩
    · rw [same]
      exact ⟨attendedBefore, rfl⟩
    · rw [submitted]
      exact ⟨attendedBefore.act (.submit request), rfl⟩
  have output : asked.interpreter = console.interpreter := by
    rw [interpreter, session.2, state, interpreter]
  refine ⟨⟨session.1, outputClosed.trans attended.outputOpen, ?_⟩, ?_⟩
  · rw [output, shown]
    exact attended.within
  · rw [shownLines, output, shown, shownLines]

theorem Attended.takeNotice (attended : console.Attended script held) :
    console.takeNotice.console.Attended script held ∧
      console.takeNotice.console.shownLines = console.shownLines := by
  unfold Console.takeNotice
  split
  · exact ⟨⟨attended.session, attended.outputOpen, attended.within⟩, rfl⟩
  · exact ⟨⟨attended.session.congr rfl rfl, attended.outputOpen, attended.within⟩, rfl⟩

theorem Attended.takeOutput
    (attended : console.Attended script held) (offered : console.unshown ≠ []) :
    console.takeOutput.console.Attended script held ∧
      console.takeOutput.console.shownLines =
        console.shownLines ++ console.takeOutput.printed := by
  obtain ⟨line, rest, unshown⟩ := List.exists_cons_of_ne_nil offered
  have next : console.nextOutput? = some line := by
    rw [nextOutput?_eq_head?, unshown, List.head?_cons]
  have written : console.interpreter.output.toList[console.shown]? = some line := by
    rw [nextOutput?, attended.outputOpen] at next
    simpa using next
  obtain ⟨inside, _⟩ := List.getElem?_eq_some_iff.mp written
  simp only [Console.takeOutput, next]
  refine ⟨⟨attended.session, attended.outputOpen, inside⟩, ?_⟩
  change (console.interpreter.output.toList.take (console.shown + 1)).map outputLine = _
  rw [List.take_add_one, written, List.map_append, shownLines]
  rfl

/-- What one turn leaves: the lines shown are those shown before and, if it took from the output, the one
that it printed. -/
theorem Attended.take
    (attended : console.Attended script held) {typed : List String} {source : Source}
    (offered : console.Offers typed source) :
    (console.take source).console.Attended script held ∧
      (console.take source).console.shownLines =
        console.shownLines ++ if source = .output then (console.take source).printed else [] := by
  cases source with
  | output => exact attended.takeOutput offered
  | notice =>
      rw [if_neg (by simp), List.append_nil]
      exact attended.takeNotice
  | input line =>
      rw [if_neg (by simp), List.append_nil]
      cases line with
      | none => exact ⟨attended, rfl⟩
      | some line => exact (console.enter_asks line).attended attended

/-- While the session goes on, what was shown stays what the output begins with. -/
theorem Attended.acts
    (attended : console.Attended script held) (actions : List Session.Action) :
    { console with session := console.session.acts actions }.Attended script held ∧
      { console with session := console.session.acts actions }.shownLines =
        console.shownLines := by
  obtain ⟨written, output⟩ := Session.output_acts attended.session.coherent actions
  have grown : { console with session := console.session.acts actions }.interpreter.output.toList =
      console.interpreter.output.toList ++ written := output.symm
  refine ⟨⟨attended.session.acts actions, attended.outputOpen, ?_⟩, ?_⟩
  · rw [grown, List.length_append]
    exact Nat.le_add_right_of_le attended.within
  · rw [shownLines, grown, List.take_append_of_le_length attended.within, shownLines]

end Turns

/-- The loop shows the lines of the output in their order, each once. -/
theorem Loop.shown
    {script : List String} {held : Bool} {console ended : Console} {typed : List String}
    {record : List (Source × List String)} (loop : Loop console typed record ended)
    (attended : console.Attended script held) :
    ended.Attended script held ∧ ended.shownLines = console.shownLines ++ shownOutput record := by
  induction loop with
  | works action _ _ inductionHypothesis =>
      obtain ⟨attendedNow, same⟩ := attended.acts [action]
      rw [← same]
      exact inductionHypothesis attendedNow
  | takes source offered _ _ inductionHypothesis =>
      obtain ⟨attendedNow, shown⟩ := attended.take offered
      obtain ⟨attendedThen, later⟩ := inductionHypothesis attendedNow
      refine ⟨attendedThen, later.trans ?_⟩
      rw [shown, shownOutput_cons, List.append_assoc]
  | quits source offered _ =>
      obtain ⟨attendedNow, shown⟩ := attended.take offered
      refine ⟨attendedNow, shown.trans ?_⟩
      rw [shownOutput_cons, shownOutput, List.filter_nil, List.flatMap_nil, List.append_nil]

/-! ## The end -/

theorem execute_quits
    {console : Console} {command : Command} {turn : Turn}
    (executed : console.execute command = .ok turn) (quits : turn.quits = true) :
    turn.console = console := by
  cases command with
  | quit =>
      obtain rfl := Except.ok.inj executed
      rfl
  | addBreakpoint line =>
      rw [execute] at executed
      split at executed
      · obtain rfl := Except.ok.inj executed
        cases quits
      · cases executed
  | nothing | help | listBreakpoints | whereabouts | «continue» | stepOver | showVariables
  | setVariable | evaluate | memory | removeBreakpoint | terminate | disconnect =>
      obtain rfl := Except.ok.inj executed
      cases quits

theorem enter_quits
    {console : Console} {line : String} (quits : (console.enter line).quits = true) :
    (console.enter line).console = console := by
  unfold enter at quits ⊢
  cases parsed : Command.parse line with
  | error error => rfl
  | ok command =>
      simp only [parsed] at quits ⊢
      cases executed : console.execute command with
      | error error => rfl
      | ok turn =>
          rw [executed] at quits
          exact execute_quits executed quits

/-- When the console quits, its session has settled or its script has ended. -/
theorem Loop.quit
    {script : List String} {held : Bool} {console ended : Console} {typed : List String}
    {record : List (Source × List String)} (loop : Loop console typed record ended)
    (attended : console.Attended script held) :
    ended.session.Settled ∨ ended.interpreter.status = .terminated := by
  induction loop with
  | works action _ _ inductionHypothesis => exact inductionHypothesis (attended.acts [action]).1
  | takes source offered _ _ inductionHypothesis =>
      exact inductionHypothesis (attended.take offered).1
  | @quits console typed source offered quits =>
      cases source with
      | input line =>
          cases line with
          | none => exact .inl offered.1
          | some line =>
              rw [take] at quits ⊢
              rw [enter_quits quits]
              exact .inl offered.1
      | output =>
          have goesOn : console.takeOutput.quits = false := by
            unfold takeOutput
            split <;> rfl
          exact absurd (goesOn.symm.trans quits) Bool.false_ne_true
      | notice =>
          have told : .terminated ∈ console.session.unread := by
            simp only [take, takeNotice] at quits
            split at quits
            · cases quits
            case h_2 notice later unread =>
              rw [unread, of_decide_eq_true quits]
              exact List.mem_cons_self
          have same : (console.take .notice).console.interpreter = console.interpreter := by
            simp only [take, takeNotice]
            split <;> rfl
          rw [same]
          exact .inr (attended.session.ended (List.mem_of_mem_drop told))

theorem finish_eq_acts (console : Console) :
    ∃ actions, console.finish = { console with session := console.session.acts actions } := by
  unfold finish
  split
  · exact ⟨[], rfl⟩
  · exact ⟨[], rfl⟩
  · obtain ⟨actions, settles⟩ := (console.session.submit .terminate).settle_eq_acts
    exact ⟨.submit .terminate :: actions, by rw [settles]; rfl⟩

theorem Attended.finish_terminated
    {script : List String} {held : Bool} {console : Console}
    (attended : console.Attended script held)
    (quit : console.session.Settled ∨ console.interpreter.status = .terminated) :
    console.finish.interpreter.status = .terminated := by
  rcases quit with settled | ended
  · unfold finish
    split
    case h_1 phase => exact attended.session.ended_of_final settled (.inl phase)
    case h_2 phase => exact attended.session.ended_of_final settled (.inr phase)
    case h_3 going others =>
      simpa only [interpreter] using
        attended.session.ended_of_terminate settled ⟨going, others⟩
  · obtain ⟨actions, finished⟩ := console.finish_eq_acts
    rw [finished]
    exact Session.terminated_acts attended.session.coherent ended actions

theorem create_attended (source : String) (breakpoints : List Nat) (stopOnEntry : Bool) :
    (create source breakpoints stopOnEntry).Attended (Text.lines source) stopOnEntry ∧
      (create source breakpoints stopOnEntry).shownLines = [] := by
  have coherent := Session.create_coherent source stopOnEntry breakpoints
  obtain ⟨queue, state⟩ := Session.create_eq (Interpreter.ofSource source stopOnEntry) breakpoints
  obtain ⟨begun, _, _, started, _⟩ :=
    Session.settle_start coherent (.inl queue) (by rw [state]; rfl)
  have attended := Session.create_attended source stopOnEntry breakpoints started
  simp only [create, started]
  exact ⟨⟨attended, rfl, Nat.zero_le _⟩, rfl⟩

/-- Whatever is typed before the input ends, the console comes to quit: the transcript of the program is
that of a loop and of what is left at the end.  And in whatever order a loop takes what is ready, when
the console has quit and finished, the script has ended, and the lines of the output that were printed,
those of the loop and then those that were left, are the output of the script. -/
theorem quitting_ends_and_loses_nothing
    (source : String) (breakpoints : List Nat) (stopOnEntry : Bool) (typed : List String) :
    (∃ record ended,
      Loop (create source breakpoints stopOnEntry) typed record ended ∧
        (create source breakpoints stopOnEntry).transcript (typed.map some ++ [none]) =
          String.join (turnTexts record) ++ printLines (ended.finish.unshown.map outputLine)) ∧
      ∀ record ended,
        Loop (create source breakpoints stopOnEntry) typed record ended →
        ended.finish.interpreter.status = .terminated ∧
          shownOutput record ++ ended.finish.unshown.map outputLine =
            ended.finish.interpreter.output.toList.map outputLine := by
  refine ⟨transcript_loop (create_steady source breakpoints stopOnEntry) typed, ?_⟩
  intro record ended loop
  obtain ⟨begun, nothing⟩ := create_attended source breakpoints stopOnEntry
  obtain ⟨attended, shown⟩ := loop.shown begun
  rw [nothing, List.nil_append] at shown
  refine ⟨attended.finish_terminated (loop.quit begun), ?_⟩
  -- Finishing only adds to the output, so what the loop has shown is still what it begins with.
  obtain ⟨actions, finished⟩ := ended.finish_eq_acts
  obtain ⟨finishedAttended, same⟩ := attended.acts actions
  rw [← finished] at finishedAttended same
  rw [← shown, ← same, shownLines, unshown, if_neg (by simp [finishedAttended.outputOpen]),
    ← List.map_append, List.take_append_drop]

/-- The script is let go when it waits at its second line, and what it writes then is left. -/
theorem quitting_ends_and_loses_nothing_let_go :
    ∃ record ended,
      Loop (create "x\ny" [2] false) ["d"] record ended ∧
        record.map Prod.fst = [.notice, .output, .input (some "d"), .input none] ∧
        ended.finish.interpreter.status = .terminated ∧
        shownOutput record ++ ended.finish.unshown.map outputLine =
          ended.finish.interpreter.output.toList.map outputLine := by
  have loop : ∃ ended, Loop (create "x\ny" [2] false) ["d"] _ ended :=
    ⟨_, .takes .notice (.inl (by decide +kernel)) rfl
      (.takes .output (by decide +kernel : unshown _ ≠ []) rfl
      (.takes (.input (some "d")) ⟨⟨rfl, fun _ _ => ⟨rfl, rfl⟩⟩, rfl⟩ rfl
      (.works .deliver (.inl rfl) (.works .proceed (.inr rfl) (.works .deliver (.inl rfl)
      (.quits (.input none) ⟨⟨rfl, fun _ waits => by cases waits⟩, rfl⟩ rfl))))))⟩
  obtain ⟨ended, loop⟩ := loop
  exact ⟨_, _, loop, rfl, (quitting_ends_and_loses_nothing _ _ _ _).2 _ _ loop⟩

end Console

end ScriptDebugger
