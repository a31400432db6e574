import Mathlib.Data.List.Infix
import ScriptDebugger.Proofs.Session.Answers
import ScriptDebugger.Proofs.Session.Finality
import ScriptDebugger.Proofs.Session.Resuming

/-!
# Reading the memory of a running script

The memory of a script is what it has written.  Nothing that is done with a session takes any of it back,
so parts of it that were read at different times fit together: pages that are read one after the other
are a beginning of the memory as it is in the end, although the script went on between them.
-/

namespace ScriptDebugger

/-! ## What a script has written stays -/

namespace Interpreter

theorem output_execute (interpreter : Interpreter) (line : String) :
    interpreter.output.toList <+: (interpreter.execute line).output.toList := by
  unfold execute
  split
  · exact List.prefix_rfl
  · exact List.prefix_rfl
  · rw [Array.toList_push]
    exact List.prefix_append _ _

theorem output_executeAll (interpreter : Interpreter) (lines : List String) :
    interpreter.output.toList <+: (interpreter.executeAll lines).output.toList := by
  induction lines generalizing interpreter with
  | nil => exact List.prefix_rfl
  | cons line later inductionHypothesis =>
      exact (interpreter.output_execute line).trans (inductionHypothesis _)

theorem Move.output
    {stops : Nat → Prop} {interpreter moved : Interpreter} {signals : List Signal}
    (move : Move stops interpreter moved signals) :
    interpreter.output.toList <+: moved.output.toList := by
  cases move with
  | idle | hold | quitUnstarted | quit => exact List.prefix_rfl
  | @go place stop =>
      have written := interpreter.going.output_executeAll
        (linesBetween interpreter.script (place.getD 1)
          (stop.getD (interpreter.script.length + 1)))
      cases stop <;> exact written

theorem output_after (interpreter : Interpreter) (request : Request) :
    (interpreter.after request).output = interpreter.output := by
  rw [after_frame]

/-- The memory is the text of the output, a line feed after each line. -/
theorem memory_eq (interpreter : Interpreter) :
    interpreter.memory =
      Text.utf8 (String.join (interpreter.output.toList.map fun line => line ++ "\n")) := by
  have feed : Text.utf8 "\n" = [10] := by decide
  rw [memory, Text.utf8, String.toList_join, List.flatMap_assoc, List.flatMap_map]
  congr 1
  funext line
  rw [String.toList_append, List.flatMap_append, ← feed]
  rfl

theorem memory_grows
    {interpreter grown : Interpreter}
    (written : interpreter.output.toList <+: grown.output.toList) :
    interpreter.memory <+: grown.memory := by
  obtain ⟨later, same⟩ := written
  rw [memory, memory, ← same, List.flatMap_append]
  exact List.prefix_append _ _

end Interpreter

/-! ## Reading parts of a memory -/

theorem readMemory_grows
    {memory grown : List UInt8} (written : memory <+: grown) (start : Int) (length : Nat) :
    readMemory memory start length <+: readMemory grown start length := by
  cases start with
  | ofNat start => exact (written.drop start).take length
  | negSucc before => exact List.prefix_rfl

theorem page_append
    {memory grown rest : List UInt8} {address length : Nat} (written : memory <+: grown)
    (full : (readMemory memory address length).length = length)
    (follows : rest <+: grown.drop (address + length)) :
    readMemory memory address length ++ rest <+: grown.drop address := by
  -- Being full, the page is also what the later memory has at its place.
  have part : readMemory memory address length <+: (grown.drop address).take length :=
    readMemory_grows written address length
  have whole : readMemory memory address length = (grown.drop address).take length := by
    apply part.eq_of_length_le
    rw [full]
    exact List.length_take_le _ _
  rw [← List.drop_drop] at follows
  rw [whole]
  nth_rewrite 2 [← List.take_append_drop length (grown.drop address)]
  exact (List.prefix_append_right_inj _).mpr follows

namespace Session

/-! ## Using a session -/

/-- What is done with a session over a script. -/
inductive Use where
  | act (action : Action)
  | addBreakpoint (line : Nat)
  | removeBreakpoint (line : Nat)
  | evaluate (expression : String)
  | receiveAll
  | waitFor (isMatch : Notice → Bool) (milliseconds : Nat)
  | shutdown

/-- The session after a use. -/
def use (session : Session Interpreter) : Use → Session Interpreter
  | .act action => session.act action
  | .addBreakpoint line => session.addBreakpoint line
  | .removeBreakpoint line => session.removeBreakpoint line
  | .evaluate expression => (session.evaluate expression).2
  | .receiveAll => session.receiveAll.2
  | .waitFor isMatch milliseconds => (session.waitFor isMatch milliseconds).2
  | .shutdown => session.shutdown.1

/-- The session after uses, one after the other. -/
def useAll (session : Session Interpreter) (uses : List Use) : Session Interpreter :=
  uses.foldl use session

section Uses

variable {session : Session Interpreter}

theorem state_signals (signals : List Signal) (session : Session Interpreter) :
    (signals.foldl signal session).state = session.state := by
  induction signals generalizing session with
  | nil => rfl
  | cons first later inductionHypothesis => exact inductionHypothesis (session.signal first)

theorem use_eq_happenAll (session : Session Interpreter) (made : Use) :
    ∃ happenings, session.use made = session.happenAll happenings := by
  cases made with
  | act action =>
      cases action with
      | submit request => exact ⟨[.submit request], rfl⟩
      | deliver => exact ⟨[.deliver], rfl⟩
      | proceed => exact ⟨_, session.proceed_eq_happenAll⟩
      | start =>
          simp only [use, act, start]
          cases ran : session.state.target.run
              (Observer.noting session.state.debugger.stopsAt) [] with
          | error => exact ⟨[], rfl⟩
          | ok halted =>
              refine ⟨.become halted.1 :: halted.2.reverse.map .signal, ?_⟩
              rw [happenAll, List.foldl_cons, List.foldl_map]
              rfl
  | addBreakpoint line => exact ⟨[.addBreakpoint line], rfl⟩
  | removeBreakpoint line => exact ⟨[.removeBreakpoint line], rfl⟩
  | evaluate expression => exact ⟨[.evaluate expression], rfl⟩
  | receiveAll => exact ⟨[.receiveAll], rfl⟩
  | waitFor isMatch milliseconds => exact ⟨[.waitFor isMatch milliseconds], rfl⟩
  | shutdown => exact ⟨[.shutdown], rfl⟩

/-- What holds of a session over a script, also when it was shut down. -/
structure Sound (session : Session Interpreter) : Prop where
  orderly : session.Orderly
  paused : session.state.target.Paused

/-- `Affects interpreter changed` means that a use of the session can change the script in this way: a
request is handled, or the script makes a move. -/
inductive Affects (interpreter : Interpreter) : Interpreter → Prop
  | handles (request : Request) : Affects interpreter (interpreter.after request)
  | moves {stops : Nat → Prop} {moved : Interpreter} {signals : List Signal} :
      Interpreter.Move stops interpreter moved signals →
      Affects interpreter moved

theorem Affects.paused
    {interpreter changed : Interpreter} (affects : Affects interpreter changed)
    (paused : interpreter.Paused) :
    changed.Paused := by
  cases affects with
  | handles request => exact paused.after request
  | moves move => exact move.paused paused

theorem Affects.memory
    {interpreter changed : Interpreter} (affects : Affects interpreter changed) :
    interpreter.memory <+: changed.memory := by
  apply Interpreter.memory_grows
  cases affects with
  | handles request => rw [Interpreter.output_after]
  | moves move => exact move.output

theorem affects_self (interpreter : Interpreter) : Affects interpreter interpreter := by
  have move : Interpreter.Move (fun _ => False) interpreter interpreter [] := .idle
  exact .moves move

theorem Orderly.affects_deliver (orderly : session.Orderly) :
    Affects session.state.target (session.act .deliver).state.target := by
  cases orderly with
  | stopped stopped =>
      obtain ⟨_, state, _⟩ := happen_of_stopped stopped .deliver
      change Affects _ (session.happen .deliver).state.target
      rw [state]
      exact affects_self _
  | @working pending queue =>
      rw [act, queue]
      cases pending with
      | nil => exact affects_self _
      | cons event rest =>
          cases event with
          | notice notice =>
              by_cases final : notice = .terminated
              · subst final
                exact affects_self _
              · rw [turn_notice rest _ final]
                exact affects_self _
          | request request =>
              rw [turn_request, SessionState.handled_eq]
              exact .handles request

theorem Sound.affects_act (sound : session.Sound) (action : Action) :
    Affects session.state.target (session.act action).state.target := by
  cases action with
  | submit request => exact affects_self _
  | deliver => exact sound.orderly.affects_deliver
  | proceed =>
      obtain ⟨moved, signals, ran, move, _⟩ :=
        Interpreter.proceed_moves session.state.debugger.stopsAt sound.paused
      simp only [act, Session.proceed, Target.proceed, ran, state_signals]
      exact .moves move
  | start =>
      by_cases unstarted : session.state.target.status = .notStarted
      · obtain ⟨moved, signals, ran, move, _⟩ :=
          Interpreter.run_moves session.state.debugger.stopsAt sound.paused unstarted
        simp only [act, start, ran, state_signals]
        exact .moves move
      · obtain ⟨error, refused⟩ :=
          Interpreter.run_of_started (Observer.noting session.state.debugger.stopsAt) [] unstarted
        simp only [act, start, refused]
        exact affects_self _

theorem Sound.affects (sound : session.Sound) (made : Use) :
    Affects session.state.target (session.use made).state.target := by
  cases made with
  | act action => exact sound.affects_act action
  | addBreakpoint | removeBreakpoint | evaluate | receiveAll => exact affects_self _
  | waitFor isMatch milliseconds =>
      rw [use, waitFor_frame]
      exact affects_self _
  | shutdown =>
      rw [use, session.shutdown_state.2.1]
      exact affects_self _

theorem Sound.use (sound : session.Sound) (made : Use) : (session.use made).Sound := by
  obtain ⟨happenings, same⟩ := session.use_eq_happenAll made
  refine ⟨?_, (sound.affects made).paused sound.paused⟩
  rw [same]
  exact (sound.orderly.happenAll happenings).1

/-- Nothing that is done with a session takes back what the script has written. -/
theorem Sound.useAll (sound : session.Sound) (uses : List Use) :
    (session.useAll uses).Sound ∧
      session.state.target.memory <+: (session.useAll uses).state.target.memory := by
  induction uses generalizing session with
  | nil => exact ⟨sound, List.prefix_rfl⟩
  | cons made later inductionHypothesis =>
      obtain ⟨soundThen, written⟩ := inductionHypothesis (sound.use made)
      exact ⟨soundThen, (sound.affects made).memory.trans written⟩

theorem create_sound (source : String) (held : Bool) (breakpoints : List Nat) :
    (create (Interpreter.ofSource source held) breakpoints).Sound :=
  ⟨create_orderly _ _, (create_coherent source held breakpoints).paused⟩

/-! ## Answers -/

/-- The session after a part of the memory was asked for. -/
def fetch (session : Session Interpreter) (start : Int) (length : Nat) : Session Interpreter :=
  (session.submit (.fetchMemory start length)).settle

/-- `Tells session start length bytes` means that the session answers by the bytes when this part of the
memory is asked for. -/
def Tells (session : Session Interpreter) (start : Int) (length : Nat) (bytes : List UInt8) : Prop :=
  (session.fetch start length).state.published = session.state.published ++ [.memory start bytes]

theorem Orderly.workingQueue_of_settled
    (orderly : session.Orderly) (settled : session.Settled)
    (live : session.queue.stopped = false) :
    session.queue = workingQueue [] := by
  obtain ⟨pending, queue⟩ := orderly.queue_of_live live
  have none : pending = [] := by
    rw [← settled.pending, queue]
    rfl
  rw [queue, none]

/-- A settled session answers at once, and the script does not go on. -/
theorem fetch_eq
    (queue : session.queue = workingQueue []) (quiet : session.state.target.Quiet) (start : Int)
    (length : Nat) :
    session.fetch start length =
      { session with
        state := session.state.follow
          (.notice (.memory start (readMemory session.state.target.memory start length))) } := by
  have submitted : (session.submit (.fetchMemory start length)).queue =
      workingQueue [.request (.fetchMemory start length)] := by
    rw [submit, queue]
    rfl
  have answered : (session.submit (.fetchMemory start length)).drain =
      { session with
        state := session.state.follow
          (.notice (.memory start (readMemory session.state.target.memory start length))) } := by
    rw [drain_request submitted, if_neg (by simp), ← queue]
    rfl
  have quietNow : (session.submit (.fetchMemory start length)).drain.state.target.Quiet := by
    rw [answered]
    exact quiet
  rw [fetch, settle, proceed_of_quiet quietNow, answered]
  exact drain_idle queue

theorem not_tells_of_stopped
    (stopped : session.queue.stopped = true) (start : Int) (length : Nat) (bytes : List UInt8) :
    ¬ session.Tells start length bytes := by
  obtain ⟨happenings, settles⟩ := (session.submit (.fetchMemory start length)).settle_eq_happenAll
  have state := (happenAll_of_stopped stopped (.submit (.fetchMemory start length) :: happenings)).1
  have silent : (session.fetch start length).state.published = session.state.published := by
    rw [fetch, settles]
    exact (congrArg SessionState.published state).trans rfl
  intro tells
  rw [Tells, silent] at tells
  simp at tells

/-- A settled session tells the part of the memory that is asked for, unless it was stopped. -/
theorem Sound.tells_iff
    (sound : session.Sound) (settled : session.Settled) (start : Int) (length : Nat)
    (bytes : List UInt8) :
    session.Tells start length bytes ↔
      session.queue.stopped = false ∧
        bytes = readMemory session.state.target.memory start length := by
  cases live : session.queue.stopped with
  | true => simp [not_tells_of_stopped live]
  | false =>
      have queue := sound.orderly.workingQueue_of_settled settled live
      rw [Tells, fetch_eq queue settled.quiet]
      simp [SessionState.follow, eq_comm]

theorem Sound.fetch
    (sound : session.Sound) (start : Int) (length : Nat) :
    (session.fetch start length).Sound ∧
      session.state.target.memory <+: (session.fetch start length).state.target.memory := by
  obtain ⟨actions, settles⟩ := (session.submit (.fetchMemory start length)).settle_eq_acts
  have uses : session.fetch start length =
      session.useAll ((.submit (.fetchMemory start length) :: actions).map .act) := by
    rw [Session.fetch, settles, Session.useAll, List.foldl_map]
    rfl
  rw [uses]
  exact sound.useAll _

/-! ## Pages -/

/-- `Pages session address final bytes` means that, from the session on to the session `final`, the memory
was read in pages from an address on, which together give the bytes.  Each page begins where the one
before ends, all but the last one are full, and anything may be done with the session between them. -/
inductive Pages : Session Interpreter → Nat → Session Interpreter → List UInt8 → Prop
  | last {session : Session Interpreter} {address length : Nat} {bytes : List UInt8}
      (uses : List Use) :
      session.Settled →
      session.Tells address length bytes →
      Pages session address ((session.fetch address length).useAll uses) bytes
  | next {session final : Session Interpreter} {address length : Nat} {bytes rest : List UInt8}
      (uses : List Use) :
      session.Settled →
      session.Tells address length bytes →
      bytes.length = length →
      Pages ((session.fetch address length).useAll uses) (address + length) final rest →
      Pages session address final (bytes ++ rest)

theorem Pages.fit
    {final : Session Interpreter} {address : Nat} {bytes : List UInt8}
    (pages : Pages session address final bytes) (sound : session.Sound) :
    session.state.target.memory <+: final.state.target.memory ∧
      bytes <+: final.state.target.memory.drop address := by
  induction pages with
  | @last session address length bytes uses settled tells =>
      obtain ⟨soundThen, fetched⟩ := sound.fetch address length
      have written := fetched.trans (soundThen.useAll uses).2
      rw [((sound.tells_iff settled _ _ _).mp tells).2]
      exact ⟨written, (List.take_prefix _ _).trans (written.drop address)⟩
  | @next session final address length bytes rest uses settled tells full _ inductionHypothesis =>
      obtain ⟨soundThen, fetched⟩ := sound.fetch address length
      obtain ⟨soundLater, used⟩ := soundThen.useAll uses
      obtain ⟨later, follows⟩ := inductionHypothesis soundLater
      have written := fetched.trans (used.trans later)
      obtain ⟨_, rfl⟩ := (sound.tells_iff settled _ _ _).mp tells
      exact ⟨written, page_append written full follows⟩

end Uses

/-- The memory of a script is the text of its output, and nothing that is done with the session takes any
of it back.  A settled session that was not stopped tells the part of it that is asked for; the same part
asked for later begins with what was told before; and pages that are read one after the other, whatever
is done between them, are a beginning of the memory as it is in the end. -/
theorem memory_read_in_pages (source : String) (held : Bool) (breakpoints : List Nat)
    (uses : List Use) (session : Session Interpreter)
    (reached : session = (create (Interpreter.ofSource source held) breakpoints).useAll uses) :
    session.state.target.memory =
        Text.utf8
          (String.join (session.state.target.output.toList.map fun line => line ++ "\n")) ∧
      (∀ later, session.state.target.memory <+: (session.useAll later).state.target.memory) ∧
      (session.Settled →
        ∀ start length,
          (session.queue.stopped = false → ∃ bytes, session.Tells start length bytes) ∧
          ∀ bytes, session.Tells start length bytes →
            ReadsFrom session.state.target.memory start length bytes ∧
            ∀ later again,
              ((session.fetch start length).useAll later).Settled →
              ((session.fetch start length).useAll later).Tells start length again →
              bytes <+: again) ∧
      ∀ final bytes, Pages session 0 final bytes → bytes <+: final.state.target.memory := by
  have sound : session.Sound := by
    rw [reached]
    exact ((create_sound source held breakpoints).useAll uses).1
  refine ⟨session.state.target.memory_eq, fun later => (sound.useAll later).2, ?_, ?_⟩
  · intro settled start length
    refine ⟨fun live => ⟨_, (sound.tells_iff settled _ _ _).mpr ⟨live, rfl⟩⟩, ?_⟩
    intro bytes tells
    obtain ⟨_, rfl⟩ := (sound.tells_iff settled _ _ _).mp tells
    refine ⟨readMemory_readsFrom _ _ _, ?_⟩
    intro later again settledThen tellsThen
    obtain ⟨soundThen, fetched⟩ := sound.fetch start length
    obtain ⟨soundLater, used⟩ := soundThen.useAll later
    obtain ⟨_, rfl⟩ := (soundLater.tells_iff settledThen _ _ _).mp tellsThen
    exact readMemory_grows (fetched.trans used) start length
  · intro final bytes pages
    exact (pages.fit sound).2

/-- The first line is read while the script waits before the second, and the rest when it has gone on to
the third. -/
theorem memory_read_in_pages_twice :
    ∃ first second : Session Interpreter,
      first = (create (Interpreter.ofSource "ab\ncd\nef" false) [2, 3]).useAll
          ([.start, .deliver, .deliver].map .act) ∧
        second = (first.fetch (0 : Nat) 3).useAll
          ([.submit (.resume .continue), .deliver, .proceed, .deliver, .deliver].map .act) ∧
        first.Tells (0 : Nat) 3 (Text.utf8 "ab\n") ∧
        second.Tells (3 : Nat) 9 (Text.utf8 "cd\n") ∧
        Text.utf8 "ab\n" ++ Text.utf8 "cd\n" <+:
          (second.fetch (3 : Nat) 9).state.target.memory := by
  let first := (create (Interpreter.ofSource "ab\ncd\nef" false) [2, 3]).useAll
    ([.start, .deliver, .deliver].map .act)
  let second := (first.fetch (0 : Nat) 3).useAll
    ([.submit (.resume .continue), .deliver, .proceed, .deliver, .deliver].map .act)
  have tellsFirst : first.Tells (0 : Nat) 3 (Text.utf8 "ab\n") := by
    unfold Tells
    decide +kernel
  have tellsSecond : second.Tells (3 : Nat) 9 (Text.utf8 "cd\n") := by
    unfold Tells
    decide +kernel
  have settledFirst : first.Settled :=
    ⟨by decide +kernel, fun _ _ => ⟨by decide +kernel, by decide +kernel⟩⟩
  have settledSecond : second.Settled :=
    ⟨by decide +kernel, fun _ _ => ⟨by decide +kernel, by decide +kernel⟩⟩
  have rest : Pages second 3 (second.fetch (3 : Nat) 9) (Text.utf8 "cd\n") :=
    .last [] settledSecond tellsSecond
  have pages : Pages first 0 (second.fetch (3 : Nat) 9) (Text.utf8 "ab\n" ++ Text.utf8 "cd\n") :=
    .next _ settledFirst tellsFirst (by decide +kernel) rest
  refine ⟨first, second, rfl, rfl, tellsFirst, tellsSecond, ?_⟩
  exact (memory_read_in_pages "ab\ncd\nef" false [2, 3] _ first rfl).2.2.2 _ _ pages

end Session

end ScriptDebugger
