import ScriptDebugger.Proofs.Interpreter.Stops

/-!
# Moves of a script

Between two moves a script is not started, waits or has ended.  A move is what a script does when it is
started or let go on: nothing, wait for its first line, end at once, or run to the next stop.  What
holds after every move holds whenever a script is looked at.
-/

namespace ScriptDebugger

namespace Interpreter

/-- A script between two moves. -/
structure Paused (interpreter : Interpreter) : Prop where
  notRunning : interpreter.status ≠ .running
  place : ∀ place, interpreter.status = .suspended place → ValidPlace interpreter.script place
  quiet : interpreter.status = .notStarted → interpreter.resumeRequested = false

/-- A script that has gone as far as it was asked to. -/
def Quiet (interpreter : Interpreter) : Prop :=
  ∀ place, interpreter.status = .suspended place →
    interpreter.terminateRequested = false ∧ interpreter.resumeRequested = false

theorem quiet_of_status
    {interpreter : Interpreter} (elsewhere : ∀ place, interpreter.status ≠ .suspended place) :
    interpreter.Quiet :=
  fun place suspended => absurd suspended (elsewhere place)

theorem quiet_haltedAt
    {interpreter : Interpreter} (stop : Option Nat)
    (notEnding : interpreter.terminateRequested = false) :
    (interpreter.haltedAt stop).Quiet := by
  cases stop with
  | none => exact quiet_of_status (by simp [haltedAt])
  | some line => exact fun _ _ => ⟨notEnding, rfl⟩

/-- The signals that reach a debugger. -/
def told (interpreter : Interpreter) (signals : List Signal) : List Signal :=
  if interpreter.attached then signals else []

theorem told_attached
    {interpreter : Interpreter} (signals : List Signal) (attached : interpreter.attached = true) :
    interpreter.told signals = signals :=
  if_pos attached

theorem told_detached
    {interpreter : Interpreter} (signals : List Signal)
    (detached : interpreter.attached = false) :
    interpreter.told signals = [] :=
  if_neg (by simp [detached])

/-- `Departs interpreter place signal` means that a run leaves `place`, telling `signal`: it is started
and not held before its first line, or it was asked to go on. -/
inductive Departs (interpreter : Interpreter) : Option Nat → Signal → Prop
  | start :
      interpreter.status = .notStarted →
      (interpreter.attached = true → interpreter.suspendOnLoad = false) →
      Departs interpreter none .loaded
  | resume {place : Option Nat} :
      interpreter.status = .suspended place →
      interpreter.resumeRequested = true →
      Departs interpreter place .resumed

/-- `Move stops interpreter moved signals` means that the script goes from `interpreter` to `moved` and
gives the signals meanwhile. -/
inductive Move (stops : Nat → Prop) (interpreter : Interpreter) :
    Interpreter → List Signal → Prop
  | idle : Move stops interpreter interpreter []
  | hold :
      interpreter.status = .notStarted →
      interpreter.attached = true →
      interpreter.suspendOnLoad = true →
      interpreter.terminateRequested = false →
      Move stops interpreter (interpreter.suspendedAt none) [.loaded]
  | quitUnstarted :
      interpreter.status = .notStarted →
      interpreter.terminateRequested = true →
      Move stops interpreter (interpreter.haltedAt none) (interpreter.told [.loaded, .terminated])
  | quit {place : Option Nat} :
      interpreter.status = .suspended place →
      interpreter.terminateRequested = true →
      Move stops interpreter (interpreter.haltedAt none) (interpreter.told [.terminated])
  | go {place stop : Option Nat} {signal : Signal} :
      Departs interpreter place signal →
      interpreter.terminateRequested = false →
      NextStop (fun line => interpreter.attached = true ∧ stops line)
        (place.getD 0) interpreter.script.length stop →
      Move stops interpreter
        ((interpreter.going.executeAll (linesBetween interpreter.script (place.getD 1)
          (stop.getD (interpreter.script.length + 1)))).haltedAt stop)
        (interpreter.told [signal, .ofStop stop])

theorem nextStop_attached
    {stops : Nat → Prop} {line count : Nat} {stop : Option Nat} {interpreter : Interpreter}
    (next : NextStop stops line count stop) (attached : interpreter.attached = true) :
    NextStop (fun later => interpreter.attached = true ∧ stops later) line count stop := by
  simpa [attached] using next

theorem nextStop_detached
    {stops : Nat → Prop} (line count : Nat) {interpreter : Interpreter}
    (detached : interpreter.attached = false) :
    NextStop (fun later => interpreter.attached = true ∧ stops later) line count none := by
  intro later _ _ stopped
  simp [detached] at stopped

theorem started_eq_going
    {interpreter : Interpreter} (quiet : interpreter.resumeRequested = false) :
    interpreter.started = interpreter.going := by
  simp [started, going, quiet]

theorem linesBetween_whole (script : List String) :
    linesBetween script 1 (script.length + 1) = script := by
  simp [linesBetween]

/-! ## Going on -/

theorem quiet_go
    {interpreter : Interpreter} (lines : List String) (stop : Option Nat)
    (notEnding : interpreter.terminateRequested = false) :
    ((interpreter.going.executeAll lines).haltedAt stop).Quiet :=
  quiet_haltedAt stop (by simpa [going] using notEnding)

theorem proceed_moves
    (stops : Nat → Bool) {interpreter : Interpreter} (paused : interpreter.Paused) :
    ∃ moved signals,
      proceed (Observer.noting stops) interpreter [] = (moved, signals.reverse) ∧
        Move (fun line => stops line = true) interpreter moved signals ∧
        moved.Quiet := by
  by_cases quiet : interpreter.Quiet
  · exact ⟨interpreter, [], proceed_idle _ [] quiet, .idle, quiet⟩
  -- A script that is not quiet waits and was asked to end or to go on; an end is looked at first.
  cases status : interpreter.status with
  | notStarted | running | terminated => exact absurd (quiet_of_status (by simp [status])) quiet
  | suspended place =>
      have valid := paused.place place status
      cases ending : interpreter.terminateRequested with
      | true =>
          refine ⟨_, _, ?_, .quit status ending, quiet_of_status (by simp [haltedAt])⟩
          rw [proceed_of_terminateRequested _ [] status ending]
          cases attached : interpreter.attached with
          | true => rw [finish_noting stops [] attached, told_attached _ attached]; rfl
          | false => rw [finish_detached _ [] attached, told_detached _ attached]; rfl
      | false =>
          have resumed : interpreter.resumeRequested = true := by
            cases waiting : interpreter.resumeRequested with
            | true => rfl
            | false => exact absurd (fun _ _ => ⟨ending, waiting⟩) quiet
          have departs : Departs interpreter place .resumed := .resume status resumed
          cases attached : interpreter.attached with
          | true =>
              obtain ⟨stop, next, run⟩ :=
                proceed_noting stops [] status attached resumed ending valid
              refine ⟨_, _, ?_, .go departs ending (nextStop_attached next attached),
                quiet_go _ _ ending⟩
              rw [run, told_attached _ attached]
              rfl
          | false =>
              refine ⟨_, _, ?_, .go departs ending (nextStop_detached _ _ attached),
                quiet_go _ _ ending⟩
              rw [proceed_detached _ [] status attached resumed ending valid,
                told_detached _ attached]
              rfl

theorem run_moves
    (stops : Nat → Bool) {interpreter : Interpreter} (paused : interpreter.Paused)
    (unstarted : interpreter.status = .notStarted) :
    ∃ moved signals,
      run (Observer.noting stops) interpreter [] = .ok (moved, signals.reverse) ∧
        Move (fun line => stops line = true) interpreter moved signals ∧
        moved.Quiet ∧ moved.status ≠ .notStarted := by
  have quiet := paused.quiet unstarted
  cases ending : interpreter.terminateRequested with
  | true =>
      refine ⟨_, _, ?_, .quitUnstarted unstarted ending, quiet_of_status (by simp [haltedAt]),
        by simp [haltedAt]⟩
      cases attached : interpreter.attached with
      | true =>
          rw [run_noting_of_terminateRequested stops [] unstarted attached quiet ending,
            told_attached _ attached]
          rfl
      | false =>
          rw [run_detached_of_terminateRequested _ [] unstarted attached ending,
            told_detached _ attached]
          rfl
  | false =>
      cases attached : interpreter.attached with
      | true =>
          cases held : interpreter.suspendOnLoad with
          | true =>
              have waits := run_noting_suspendOnLoad stops [] unstarted attached held ending
              exact ⟨_, _, waits, .hold unstarted attached held ending,
                fun _ _ => ⟨ending, rfl⟩, by simp [suspendedAt]⟩
          | false =>
              have departs : Departs interpreter none .loaded := .start unstarted (fun _ => held)
              obtain ⟨stop, next, ran⟩ := run_noting stops [] unstarted attached held ending
              refine ⟨_, _, ?_, .go departs ending (nextStop_attached next attached),
                quiet_go _ _ ending, ?_⟩
              · rw [ran, told_attached _ attached, started_eq_going quiet]
                rfl
              · cases stop <;> simp [haltedAt, suspendedAt]
      | false =>
          have departs : Departs interpreter none .loaded :=
            .start unstarted (by simp [attached])
          refine ⟨_, _, ?_, .go departs ending (nextStop_detached _ _ attached),
            quiet_go _ _ ending, by simp [haltedAt]⟩
          rw [run_detached _ [] unstarted attached ending, told_detached _ attached,
            started_eq_going quiet]
          simp only [Option.getD_none, linesBetween_whole]
          rfl

/-! ## What moves keep -/

namespace Move

variable {stops : Nat → Prop} {interpreter moved : Interpreter} {signals : List Signal}

theorem script (move : Move stops interpreter moved signals) :
    moved.script = interpreter.script := by
  cases move <;> simp [suspendedAt, going]

theorem suspendOnLoad (move : Move stops interpreter moved signals) :
    moved.suspendOnLoad = interpreter.suspendOnLoad := by
  cases move <;> simp [suspendedAt, going]

theorem terminateRequested (move : Move stops interpreter moved signals) :
    moved.terminateRequested = interpreter.terminateRequested := by
  cases move <;> simp [suspendedAt, going]

theorem silent
    (move : Move stops interpreter moved signals) (detached : interpreter.attached = false) :
    signals = [] ∧ moved.attached = false := by
  cases move with
  | idle => exact ⟨rfl, detached⟩
  | hold unstarted attached => simp [detached] at attached
  | quitUnstarted => exact ⟨told_detached _ detached, rfl⟩
  | quit => exact ⟨told_detached _ detached, rfl⟩
  | @go place stop signal departs notEnding next =>
      refine ⟨told_detached _ detached, ?_⟩
      cases stop with
      | none => rfl
      | some line => simp [detached, NextStop] at next

/-- A debugger stays attached until the script has ended. -/
theorem attached
    (move : Move stops interpreter moved signals)
    (attached : interpreter.attached = true ↔ interpreter.status ≠ .terminated) :
    moved.attached = true ↔ moved.status ≠ .terminated := by
  cases move with
  | idle => exact attached
  | hold unstarted attachedNow => simp [suspendedAt, attachedNow]
  | quitUnstarted => simp [haltedAt]
  | quit => simp [haltedAt]
  | @go place stop signal departs notEnding next =>
      cases stop with
      | none => simp [haltedAt]
      | some line => simp [haltedAt, suspendedAt, going, next.2.2.1.1]

/-- A script that has ended does not move. -/
theorem stays
    (move : Move stops interpreter moved signals) (ended : interpreter.status = .terminated) :
    moved = interpreter := by
  cases move with
  | idle => rfl
  | hold unstarted => simp [ended] at unstarted
  | quitUnstarted unstarted => simp [ended] at unstarted
  | quit suspended => simp [ended] at suspended
  | go departs =>
      cases departs with
      | start unstarted => simp [ended] at unstarted
      | resume suspended => simp [ended] at suspended

theorem ended
    (move : Move stops interpreter moved signals) (told : Signal.terminated ∈ signals) :
    moved.status = .terminated := by
  cases move with
  | idle => simp at told
  | hold => simp at told
  | quitUnstarted => rfl
  | quit => rfl
  | @go place stop signal departs =>
      cases stop with
      | none => rfl
      | some line =>
          unfold Interpreter.told at told
          cases departs <;> split at told <;> simp [Signal.ofStop] at told

theorem told_terminated
    (move : Move stops interpreter moved signals) (attached : interpreter.attached = true)
    (unfinished : interpreter.status ≠ .terminated) (terminated : moved.status = .terminated) :
    .terminated ∈ signals := by
  cases move with
  | idle => exact absurd terminated unfinished
  | hold => simp [suspendedAt] at terminated
  | quitUnstarted => simp [told_attached _ attached]
  | quit => simp [told_attached _ attached]
  | @go place stop signal departs =>
      cases stop with
      | none => simp [told_attached _ attached, Signal.ofStop]
      | some line => simp [haltedAt, suspendedAt] at terminated

/-- A script that is let go does not wait again. -/
theorem alone
    (move : Move stops interpreter moved signals) (quiet : moved.Quiet)
    (detached : interpreter.attached = false)
    (resumed : ∀ place, interpreter.status = .suspended place →
      interpreter.resumeRequested = true) :
    ∀ place, moved.status ≠ .suspended place := by
  intro place waits
  cases move with
  | idle =>
      have waiting := (quiet place waits).2
      rw [resumed place waits] at waiting
      cases waiting
  | hold _ attached => simp [detached] at attached
  | quitUnstarted => simp [haltedAt] at waits
  | quit => simp [haltedAt] at waits
  | @go _ stop _ _ _ next =>
      cases stop with
      | none => simp [haltedAt] at waits
      | some line => simp [NextStop, detached] at next

/-- The end is the last thing that a move tells. -/
theorem told_end (move : Move stops interpreter moved signals) :
    Signal.terminated ∉ signals ∨
      ∃ before, signals = before ++ [.terminated] ∧ Signal.terminated ∉ before := by
  cases attached : interpreter.attached with
  | false => simp [(move.silent attached).1]
  | true =>
      cases move with
      | idle => simp
      | hold => simp
      | quitUnstarted => exact .inr ⟨[.loaded], told_attached _ attached, by simp⟩
      | quit => exact .inr ⟨[], told_attached _ attached, by simp⟩
      | @go place stop signal departs =>
          have other : Signal.terminated ≠ signal := by cases departs <;> simp
          rw [told_attached _ attached]
          cases stop with
          | none => exact .inr ⟨[signal], rfl, by simpa using other⟩
          | some line => exact .inl (by simpa [Signal.ofStop] using other)

theorem paused
    (move : Move stops interpreter moved signals) (paused : interpreter.Paused) :
    moved.Paused := by
  cases move with
  | idle => exact paused
  | hold => constructor <;> simp [suspendedAt, ValidPlace]
  | quitUnstarted => constructor <;> simp [haltedAt]
  | quit => constructor <;> simp [haltedAt]
  | @go place stop signal departs notEnding next =>
      cases stop with
      | none => constructor <;> simp [haltedAt]
      | some line =>
          have valid : ValidPlace interpreter.script (some line) :=
            ⟨Nat.lt_of_le_of_lt (Nat.zero_le _) next.1, next.2.1⟩
          constructor <;> simp [haltedAt, suspendedAt, going, valid]

/-! ## Moves that are determined -/

/-- A resumed script that has gone as far as it was asked to has gone to its next stop. -/
theorem of_resumed
    {place : Option Nat} (move : Move stops interpreter moved signals) (quiet : moved.Quiet)
    (suspended : interpreter.status = .suspended place)
    (attached : interpreter.attached = true)
    (resumed : interpreter.resumeRequested = true)
    (notEnding : interpreter.terminateRequested = false) :
    ∃ stop,
      NextStop stops (place.getD 0) interpreter.script.length stop ∧
        moved = (interpreter.going.executeAll (linesBetween interpreter.script (place.getD 1)
          (stop.getD (interpreter.script.length + 1)))).haltedAt stop ∧
        signals = [.resumed, .ofStop stop] := by
  cases move with
  | idle =>
      obtain ⟨_, waiting⟩ := quiet place suspended
      rw [resumed] at waiting
      cases waiting
  | hold unstarted => simp [suspended] at unstarted
  | quitUnstarted unstarted => simp [suspended] at unstarted
  | quit _ ending => simp [notEnding] at ending
  | @go _ stop _ departs _ next =>
      cases departs with
      | start unstarted => simp [suspended] at unstarted
      | resume suspendedNow =>
          obtain rfl : _ = place := Status.suspended.inj (suspendedNow.symm.trans suspended)
          exact ⟨stop, by simpa [attached] using next, rfl, told_attached _ attached⟩

/-- A script that was started and is not held has gone to its first stop. -/
theorem of_started
    (move : Move stops interpreter moved signals) (begun : moved.status ≠ .notStarted)
    (unstarted : interpreter.status = .notStarted)
    (attached : interpreter.attached = true)
    (direct : interpreter.suspendOnLoad = false)
    (notEnding : interpreter.terminateRequested = false) :
    ∃ stop,
      NextStop stops 0 interpreter.script.length stop ∧
        moved = (interpreter.going.executeAll (linesBetween interpreter.script 1
          (stop.getD (interpreter.script.length + 1)))).haltedAt stop ∧
        signals = [.loaded, .ofStop stop] := by
  cases move with
  | idle => exact absurd unstarted begun
  | hold _ _ held => simp [direct] at held
  | quitUnstarted _ ending => simp [notEnding] at ending
  | quit suspended => simp [unstarted] at suspended
  | @go place stop _ departs _ next =>
      cases departs with
      | start => exact ⟨stop, by simpa [attached] using next, rfl, told_attached _ attached⟩
      | resume suspended => simp [unstarted] at suspended

end Move

end Interpreter

end ScriptDebugger
