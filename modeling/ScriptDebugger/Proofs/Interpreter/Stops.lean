import ScriptDebugger.Debugging.Target

/-!
# Where a run stops

A run that a debugger observes goes to the first line that the debugger picks, or to the end of the
script, and executes exactly the lines before it.  A run that nobody observes executes all lines.
-/

namespace ScriptDebugger

/-! ## Executing lines -/

namespace Interpreter

/-- What a script has computed so far: its variables and its output. -/
def values (interpreter : Interpreter) : Variables × Array String :=
  (interpreter.bindings, interpreter.output)

/-- Executes lines one after the other. -/
def executeAll (interpreter : Interpreter) (lines : List String) : Interpreter :=
  lines.foldl execute interpreter

theorem executeAll_cons (interpreter : Interpreter) (line : String) (rest : List String) :
    interpreter.executeAll (line :: rest) = (interpreter.execute line).executeAll rest :=
  rfl

theorem executeAll_append (interpreter : Interpreter) (first second : List String) :
    interpreter.executeAll (first ++ second) =
      (interpreter.executeAll first).executeAll second :=
  List.foldl_append

/-- What lines compute depends on what was computed before them, and on nothing else. -/
theorem values_executeAll_congr
    {first second : Interpreter} (lines : List String) (same : first.values = second.values) :
    (first.executeAll lines).values = (second.executeAll lines).values := by
  induction lines generalizing first second with
  | nil => exact same
  | cons line rest inductionHypothesis =>
      apply inductionHypothesis
      obtain ⟨sameBindings, sameOutput⟩ := Prod.mk.inj same
      unfold execute
      cases Statement.ofLine line <;> simp [values, sameBindings, sameOutput]

theorem execute_frame (interpreter : Interpreter) (line : String) :
    interpreter.execute line =
      { interpreter with
        bindings := (interpreter.execute line).bindings
        output := (interpreter.execute line).output } := by
  unfold execute
  cases Statement.ofLine line <;> rfl

/-- Executing lines changes the variables and the output only. -/
theorem executeAll_frame (interpreter : Interpreter) (lines : List String) :
    interpreter.executeAll lines =
      { interpreter with
        bindings := (interpreter.executeAll lines).bindings
        output := (interpreter.executeAll lines).output } := by
  induction lines generalizing interpreter with
  | nil => rfl
  | cons line rest inductionHypothesis =>
      have later := inductionHypothesis (interpreter.execute line)
      rw [executeAll_cons, later, execute_frame]

section Frame

variable (interpreter : Interpreter) (line : String) (lines : List String)

@[simp]
theorem execute_attached : (interpreter.execute line).attached = interpreter.attached := by
  rw [execute_frame]

@[simp]
theorem execute_terminateRequested :
    (interpreter.execute line).terminateRequested = interpreter.terminateRequested := by
  rw [execute_frame]

@[simp]
theorem executeAll_script : (interpreter.executeAll lines).script = interpreter.script := by
  rw [executeAll_frame]

@[simp]
theorem executeAll_suspendOnLoad :
    (interpreter.executeAll lines).suspendOnLoad = interpreter.suspendOnLoad := by
  rw [executeAll_frame]

@[simp]
theorem executeAll_terminateRequested :
    (interpreter.executeAll lines).terminateRequested = interpreter.terminateRequested := by
  rw [executeAll_frame]

@[simp]
theorem executeAll_attached : (interpreter.executeAll lines).attached = interpreter.attached := by
  rw [executeAll_frame]

end Frame

end Interpreter

/-! ## The next stop -/

/-- `NextStop stops line count stop` means that, of the lines after `line` up to `count`, the one to
stop at first is `stop`, or that there is none. -/
def NextStop (stops : Nat → Prop) (line count : Nat) : Option Nat → Prop
  | some stop =>
      line < stop ∧ stop ≤ count ∧ stops stop ∧
        ∀ between, line < between → between < stop → ¬ stops between
  | none => ∀ later, line < later → later ≤ count → ¬ stops later

/-- The lines of a script from number `first` up to, and without, number `last`. -/
def linesBetween (script : List String) (first last : Nat) : List String :=
  (script.drop (first - 1)).take (last - first)

/-- Where a run stands when it stops. -/
def Status.ofStop : Option Nat → Status
  | some line => .suspended (some line)
  | none => .terminated

namespace Interpreter

/-- The interpreter where a run stops: suspended before a line, or ended. -/
def haltedAt (interpreter : Interpreter) : Option Nat → Interpreter
  | some line => interpreter.suspendedAt (some line)
  | none => { interpreter with status := .terminated, attached := false }

section Halted

variable (interpreter : Interpreter) (stop : Option Nat)

theorem haltedAt_status : (interpreter.haltedAt stop).status = .ofStop stop := by
  cases stop <;> rfl

@[simp]
theorem haltedAt_script : (interpreter.haltedAt stop).script = interpreter.script := by
  cases stop <;> rfl

@[simp]
theorem haltedAt_suspendOnLoad :
    (interpreter.haltedAt stop).suspendOnLoad = interpreter.suspendOnLoad := by
  cases stop <;> rfl

@[simp]
theorem haltedAt_terminateRequested :
    (interpreter.haltedAt stop).terminateRequested = interpreter.terminateRequested := by
  cases stop <;> rfl

@[simp]
theorem haltedAt_values : (interpreter.haltedAt stop).values = interpreter.values := by
  cases stop <;> rfl

end Halted

end Interpreter

/-- What a run tells when it stops. -/
def Signal.ofStop : Option Nat → Signal
  | some line => .suspended line
  | none => .terminated

theorem NextStop.lt_getD
    {stops : Nat → Prop} {line count : Nat} {stop : Option Nat}
    (next : NextStop stops line count stop) (within : line ≤ count) :
    line < stop.getD (count + 1) := by
  cases stop with
  | none => exact Nat.lt_succ_of_le within
  | some stop => exact next.1

theorem NextStop.step
    {stops : Nat → Prop} {line count : Nat} {stop : Option Nat}
    (passes : ¬ stops (line + 1)) (next : NextStop stops (line + 1) count stop) :
    NextStop stops line count stop := by
  have skip : ∀ later, line < later → later ≠ line + 1 → line + 1 < later := by
    intro later after different
    omega
  cases stop with
  | none =>
      intro later after within stopped
      by_cases same : later = line + 1
      · exact passes (same ▸ stopped)
      · exact next later (skip later after same) within stopped
  | some stop =>
      obtain ⟨after, within, stopped, first⟩ := next
      refine ⟨Nat.lt_of_succ_lt after, within, stopped, ?_⟩
      intro between later before stoppedBefore
      by_cases same : between = line + 1
      · exact passes (same ▸ stoppedBefore)
      · exact first between (skip between later same) before stoppedBefore

namespace Interpreter

theorem runLines_of_terminateRequested
    {σ : Type} (observer : Observer σ) (lines : List String) (number : Nat)
    {interpreter : Interpreter} (state : σ) (ending : interpreter.terminateRequested = true) :
    runLines observer lines number interpreter state = finish observer interpreter state := by
  cases lines with
  | nil => rfl
  | cons line rest => rw [runLines, if_pos ending]

theorem runLines_detached
    {σ : Type} (observer : Observer σ) (lines : List String) (number : Nat)
    {interpreter : Interpreter} (state : σ) (detached : interpreter.attached = false)
    (going : interpreter.terminateRequested = false) :
    runLines observer lines number interpreter state =
      ((interpreter.executeAll lines).haltedAt none, state) := by
  induction lines generalizing number interpreter with
  | nil => simp [runLines, finish, detached, executeAll, haltedAt]
  | cons line rest inductionHypothesis =>
      rw [runLines, if_neg (by simp [going]), if_neg (by simp [detached]),
        inductionHypothesis (number + 1) (by simpa using detached) (by simpa using going),
        executeAll_cons]

/-- A run under a debugger goes to the next line where the debugger stops it. -/
theorem runLines_noting
    (stops : Nat → Bool) (lines : List String) (line : Nat) {interpreter : Interpreter}
    (signals : List Signal) (attached : interpreter.attached = true)
    (going : interpreter.terminateRequested = false) :
    ∃ stop, NextStop (fun later => stops later = true) line (line + lines.length) stop ∧
      runLines (Observer.noting stops) lines (line + 1) interpreter signals =
        ((interpreter.executeAll
            (lines.take (stop.getD (line + lines.length + 1) - (line + 1)))).haltedAt stop,
          .ofStop stop :: signals) := by
  -- The induction is on the lines that are left; `line` is the number of the last one executed.
  induction lines generalizing line interpreter with
  | nil =>
      refine ⟨none, ?_, ?_⟩
      · intro later after within
        simp only [List.length_nil, Nat.add_zero] at within
        omega
      · simp [runLines, finish, attached, executeAll, haltedAt, Observer.noting, Signal.ofStop]
  | cons text rest inductionHypothesis =>
      cases stopped : stops (line + 1) with
      | true =>
          refine ⟨some (line + 1), ⟨by omega, by simp, stopped, ?_⟩, ?_⟩
          · intro between after before
            omega
          · simp [runLines, going, attached, Observer.noting, stopped, suspendedAt, executeAll,
              haltedAt, Signal.ofStop]
      | false =>
          have attachedNext : (interpreter.execute text).attached = true := by
            simpa using attached
          have goingNext : (interpreter.execute text).terminateRequested = false := by
            simpa using going
          obtain ⟨stop, next, run⟩ := inductionHypothesis (line + 1) attachedNext goingNext
          have total : line + 1 + rest.length = line + (text :: rest).length := by
            simp only [List.length_cons]
            omega
          rw [total] at next run
          have one : stop.getD (line + (text :: rest).length + 1) - (line + 1) =
              stop.getD (line + (text :: rest).length + 1) - (line + 1 + 1) + 1 := by
            have beyond := next.lt_getD (by simp only [List.length_cons]; omega)
            omega
          refine ⟨stop, next.step (by simp [stopped]), ?_⟩
          rw [one, List.take_succ_cons, executeAll_cons, ← run, runLines, if_neg (by simp [going]),
            if_pos attached]
          simp only [Observer.noting, stopped]

/-! ## Going on after a suspension -/

/-- The interpreter that goes on after a suspension. -/
def going (interpreter : Interpreter) : Interpreter :=
  { interpreter with status := .running, resumeRequested := false }

theorem finish_noting
    (stops : Nat → Bool) {interpreter : Interpreter} (signals : List Signal)
    (attached : interpreter.attached = true) :
    finish (Observer.noting stops) interpreter signals =
      (interpreter.haltedAt none, .terminated :: signals) := by
  rw [finish, if_pos attached]
  rfl

theorem finish_detached
    {σ : Type} (observer : Observer σ) {interpreter : Interpreter} (state : σ)
    (detached : interpreter.attached = false) :
    finish observer interpreter state = (interpreter.haltedAt none, state) := by
  rw [finish, if_neg (by simp [detached])]
  rfl

theorem drop_line
    {script : List String} {number : Nat} (positive : 1 ≤ number)
    (within : number ≤ script.length) :
    ∃ text, script.drop (number - 1) = text :: script.drop number := by
  have inside : number - 1 < script.length := by omega
  refine ⟨script[number - 1], ?_⟩
  rw [List.drop_eq_getElem_cons inside, Nat.sub_add_cancel positive]

/-- A place where a run can wait: before a line of the script, or for its first line. -/
def ValidPlace (script : List String) : Option Nat → Prop
  | none => True
  | some number => 1 ≤ number ∧ number ≤ script.length

theorem proceed_idle
    {σ : Type} (observer : Observer σ) {interpreter : Interpreter} (state : σ)
    (waits : ∀ place, interpreter.status = .suspended place →
      interpreter.terminateRequested = false ∧ interpreter.resumeRequested = false) :
    proceed observer interpreter state = (interpreter, state) := by
  unfold proceed
  split
  case h_1 place suspended =>
    obtain ⟨going, waiting⟩ := waits place suspended
    rw [if_neg (by simp [going]), if_neg (by simp [waiting])]
  case h_2 => rfl

theorem proceed_of_terminateRequested
    {σ : Type} (observer : Observer σ) {interpreter : Interpreter} {place : Option Nat} (state : σ)
    (suspended : interpreter.status = .suspended place)
    (ending : interpreter.terminateRequested = true) :
    proceed observer interpreter state = finish observer interpreter state := by
  rw [proceed, suspended]
  simp only [if_pos ending]

/-- A resumed run executes the line before which it waited, if there is one, and goes on behind it. -/
theorem proceed_of_resumeRequested
    {σ : Type} (observer : Observer σ) {interpreter : Interpreter} {place : Option Nat}
    {state resumedState : σ} (suspended : interpreter.status = .suspended place)
    (resumed : interpreter.resumeRequested = true)
    (notEnding : interpreter.terminateRequested = false)
    (valid : ValidPlace interpreter.script place)
    (left : leaveSuspension observer interpreter state = (interpreter.going, resumedState)) :
    proceed observer interpreter state =
      runLines observer (interpreter.script.drop (place.getD 0)) (place.getD 0 + 1)
        (interpreter.going.executeAll
          (linesBetween interpreter.script (place.getD 1) (place.getD 0 + 1))) resumedState := by
  have opened := suspended
  cases place with
  | none =>
      rw [proceed, opened]
      simp only [if_neg (ne_true_of_eq_false notEnding), if_pos resumed, left]
      simp [linesBetween, executeAll, going]
  | some number =>
      obtain ⟨text, shape⟩ := drop_line valid.1 valid.2
      have first : linesBetween interpreter.script number (number + 1) = [text] := by
        rw [linesBetween, shape, Nat.add_sub_cancel_left]
        rfl
      have same : interpreter.going.script.drop (number - 1) =
          text :: interpreter.script.drop number := shape
      rw [proceed, opened]
      simp only [if_neg (ne_true_of_eq_false notEnding), if_pos resumed, left, same,
        Option.getD_some, first]
      rfl

theorem linesBetween_append
    (script : List String) {place : Option Nat} {last : Nat} (valid : ValidPlace script place)
    (beyond : place.getD 0 < last) :
    linesBetween script (place.getD 1) (place.getD 0 + 1) ++
        (script.drop (place.getD 0)).take (last - (place.getD 0 + 1)) =
      linesBetween script (place.getD 1) last := by
  cases place with
  | none => simp [linesBetween]
  | some number =>
      obtain ⟨text, shape⟩ := drop_line valid.1 valid.2
      simp only [Option.getD_some] at beyond ⊢
      have one : last - number = last - (number + 1) + 1 := by omega
      rw [linesBetween, linesBetween, shape, one, List.take_succ_cons, Nat.add_sub_cancel_left]
      rfl

theorem drop_place_length
    {script : List String} {place : Option Nat} (valid : ValidPlace script place) :
    place.getD 0 + (script.drop (place.getD 0)).length = script.length := by
  rw [List.length_drop]
  cases place with
  | none => simp
  | some number =>
      have within := valid.2
      simp only [Option.getD_some]
      omega

/-- A run that is resumed under a debugger goes to the next stop. -/
theorem proceed_noting
    (stops : Nat → Bool) {interpreter : Interpreter} {place : Option Nat} (signals : List Signal)
    (suspended : interpreter.status = .suspended place)
    (attached : interpreter.attached = true)
    (resumed : interpreter.resumeRequested = true)
    (notEnding : interpreter.terminateRequested = false)
    (valid : ValidPlace interpreter.script place) :
    ∃ stop,
      NextStop (fun line => stops line = true) (place.getD 0) interpreter.script.length stop ∧
      proceed (Observer.noting stops) interpreter signals =
        ((interpreter.going.executeAll (linesBetween interpreter.script (place.getD 1)
            (stop.getD (interpreter.script.length + 1)))).haltedAt stop,
          .ofStop stop :: .resumed :: signals) := by
  have left : leaveSuspension (Observer.noting stops) interpreter signals =
      (interpreter.going, .resumed :: signals) := by
    simp [leaveSuspension, attached, Observer.noting, going]
  let current := interpreter.going.executeAll
    (linesBetween interpreter.script (place.getD 1) (place.getD 0 + 1))
  have attachedNow : current.attached = true := by simpa [current, going] using attached
  have notEndingNow : current.terminateRequested = false := by
    simpa [current, going] using notEnding
  obtain ⟨stop, next, run⟩ := runLines_noting stops
    (interpreter.script.drop (place.getD 0)) (place.getD 0) (.resumed :: signals)
    attachedNow notEndingNow
  have length := drop_place_length valid
  rw [length] at next run
  refine ⟨stop, next, ?_⟩
  have beyond := next.lt_getD (by omega)
  rw [proceed_of_resumeRequested _ suspended resumed notEnding valid left, run,
    ← executeAll_append, linesBetween_append _ valid beyond]

/-- A run that is resumed with no debugger goes to the end. -/
theorem proceed_detached
    {σ : Type} (observer : Observer σ) {interpreter : Interpreter} {place : Option Nat} (state : σ)
    (suspended : interpreter.status = .suspended place)
    (detached : interpreter.attached = false)
    (resumed : interpreter.resumeRequested = true)
    (notEnding : interpreter.terminateRequested = false)
    (valid : ValidPlace interpreter.script place) :
    proceed observer interpreter state =
      ((interpreter.going.executeAll (linesBetween interpreter.script (place.getD 1)
          (interpreter.script.length + 1))).haltedAt none, state) := by
  have left : leaveSuspension observer interpreter state = (interpreter.going, state) := by
    simp [leaveSuspension, detached, going]
  have length := drop_place_length valid
  have rest : (interpreter.script.drop (place.getD 0)).take
      (interpreter.script.length + 1 - (place.getD 0 + 1)) =
        interpreter.script.drop (place.getD 0) :=
    List.take_of_length_le (by omega)
  have joined := linesBetween_append interpreter.script valid
    (by omega : place.getD 0 < interpreter.script.length + 1)
  rw [rest] at joined
  rw [proceed_of_resumeRequested _ suspended resumed notEnding valid left,
    runLines_detached observer _ _ state (by simpa [going] using detached)
      (by simpa [going] using notEnding), ← executeAll_append, joined]

/-! ## Starting -/

/-- The interpreter of a started run. -/
def started (interpreter : Interpreter) : Interpreter :=
  { interpreter with status := .running }

theorem start_of_notStarted
    {interpreter : Interpreter} (unstarted : interpreter.status = .notStarted) :
    interpreter.start = .ok interpreter.started := by
  rw [start, unstarted]
  rfl

/-- A script is run at most once. -/
theorem run_of_started
    {σ : Type} (observer : Observer σ) {interpreter : Interpreter} (state : σ)
    (begun : interpreter.status ≠ .notStarted) :
    ∃ error, run observer interpreter state = .error error := by
  unfold run start
  cases status : interpreter.status with
  | notStarted => exact absurd status begun
  | running => exact ⟨_, rfl⟩
  | suspended place => exact ⟨_, rfl⟩
  | terminated => exact ⟨_, rfl⟩

theorem run_noting_eq
    (stops : Nat → Bool) {interpreter : Interpreter} (signals : List Signal)
    (unstarted : interpreter.status = .notStarted)
    (attached : interpreter.attached = true)
    (direct : interpreter.suspendOnLoad = false) :
    run (Observer.noting stops) interpreter signals =
      .ok (runLines (Observer.noting stops) interpreter.script 1 interpreter.started
        (.loaded :: signals)) := by
  have attachedNow : interpreter.started.attached = true := attached
  have directNow : ¬ interpreter.started.suspendOnLoad = true := by simp [started, direct]
  rw [run, start_of_notStarted unstarted]
  simp only [if_pos attachedNow, if_neg directNow]
  rfl

/-- A start under a debugger that does not hold the script before its first line goes to the first
stop. -/
theorem run_noting
    (stops : Nat → Bool) {interpreter : Interpreter} (signals : List Signal)
    (unstarted : interpreter.status = .notStarted)
    (attached : interpreter.attached = true)
    (direct : interpreter.suspendOnLoad = false)
    (notEnding : interpreter.terminateRequested = false) :
    ∃ stop,
      NextStop (fun line => stops line = true) 0 interpreter.script.length stop ∧
      run (Observer.noting stops) interpreter signals =
        .ok ((interpreter.started.executeAll (linesBetween interpreter.script 1
            (stop.getD (interpreter.script.length + 1)))).haltedAt stop,
          .ofStop stop :: .loaded :: signals) := by
  have attachedNow : interpreter.started.attached = true := attached
  have notEndingNow : interpreter.started.terminateRequested = false := notEnding
  obtain ⟨stop, next, ran⟩ := runLines_noting stops interpreter.script 0 (.loaded :: signals)
    attachedNow notEndingNow
  simp only [Nat.zero_add] at next ran
  refine ⟨stop, next, ?_⟩
  rw [run_noting_eq stops signals unstarted attached direct, ran]
  rfl

/-- A start under a debugger that holds the script before its first line waits, unless the run was
asked to end. -/
theorem run_noting_suspendOnLoad
    (stops : Nat → Bool) {interpreter : Interpreter} (signals : List Signal)
    (unstarted : interpreter.status = .notStarted)
    (attached : interpreter.attached = true)
    (held : interpreter.suspendOnLoad = true)
    (notEnding : interpreter.terminateRequested = false) :
    run (Observer.noting stops) interpreter signals =
      .ok (interpreter.suspendedAt none, .loaded :: signals) := by
  have attachedNow : interpreter.started.attached = true := attached
  have heldNow : interpreter.started.suspendOnLoad = true := held
  have waiting : ∀ place, (interpreter.started.suspendedAt none).status = .suspended place →
      (interpreter.started.suspendedAt none).terminateRequested = false ∧
        (interpreter.started.suspendedAt none).resumeRequested = false :=
    fun _ _ => ⟨notEnding, rfl⟩
  have waits := proceed_idle (Observer.noting stops) (.loaded :: signals) waiting
  rw [run, start_of_notStarted unstarted]
  simp only [if_pos attachedNow, if_pos heldNow]
  exact congrArg Except.ok waits

/-- A run that was asked to end before its start ends at once. -/
theorem run_noting_of_terminateRequested
    (stops : Nat → Bool) {interpreter : Interpreter} (signals : List Signal)
    (unstarted : interpreter.status = .notStarted)
    (attached : interpreter.attached = true)
    (quiet : interpreter.resumeRequested = false)
    (ending : interpreter.terminateRequested = true) :
    run (Observer.noting stops) interpreter signals =
      .ok (interpreter.haltedAt none, .terminated :: .loaded :: signals) := by
  cases held : interpreter.suspendOnLoad with
  | false =>
      have endingNow : interpreter.started.terminateRequested = true := ending
      have attachedNow : interpreter.started.attached = true := attached
      rw [run_noting_eq stops signals unstarted attached held,
        runLines_of_terminateRequested _ _ _ _ endingNow, finish_noting stops _ attachedNow]
      rfl
  | true =>
      have attachedNow : interpreter.started.attached = true := attached
      have heldNow : interpreter.started.suspendOnLoad = true := held
      have waiting : (interpreter.started.suspendedAt none).status = .suspended none := rfl
      have endingNow : (interpreter.started.suspendedAt none).terminateRequested = true := ending
      have ended := proceed_of_terminateRequested (Observer.noting stops) (.loaded :: signals)
        waiting endingNow
      have stillAttached : (interpreter.started.suspendedAt none).attached = true := attached
      rw [finish_noting stops _ stillAttached] at ended
      have same : (interpreter.started.suspendedAt none).haltedAt none =
          interpreter.haltedAt none := by
        simp [started, suspendedAt, haltedAt, quiet]
      rw [run, start_of_notStarted unstarted]
      simp only [if_pos attachedNow, if_pos heldNow]
      rw [← same]
      exact congrArg Except.ok ended

theorem run_detached_eq
    {σ : Type} (observer : Observer σ) {interpreter : Interpreter} (state : σ)
    (unstarted : interpreter.status = .notStarted)
    (detached : interpreter.attached = false) :
    run observer interpreter state =
      .ok (runLines observer interpreter.script 1 interpreter.started state) := by
  have detachedNow : ¬ interpreter.started.attached = true := by simp [started, detached]
  rw [run, start_of_notStarted unstarted]
  simp only [if_neg detachedNow]
  rfl

/-- A start with no debugger executes the whole script. -/
theorem run_detached
    {σ : Type} (observer : Observer σ) {interpreter : Interpreter} (state : σ)
    (unstarted : interpreter.status = .notStarted)
    (detached : interpreter.attached = false)
    (notEnding : interpreter.terminateRequested = false) :
    run observer interpreter state =
      .ok ((interpreter.started.executeAll interpreter.script).haltedAt none, state) := by
  have detachedNow : interpreter.started.attached = false := detached
  have notEndingNow : interpreter.started.terminateRequested = false := notEnding
  rw [run_detached_eq observer state unstarted detached,
    runLines_detached observer _ _ state detachedNow notEndingNow]

theorem run_detached_of_terminateRequested
    {σ : Type} (observer : Observer σ) {interpreter : Interpreter} (state : σ)
    (unstarted : interpreter.status = .notStarted)
    (detached : interpreter.attached = false)
    (ending : interpreter.terminateRequested = true) :
    run observer interpreter state = .ok (interpreter.haltedAt none, state) := by
  have detachedNow : interpreter.started.attached = false := detached
  have endingNow : interpreter.started.terminateRequested = true := ending
  rw [run_detached_eq observer state unstarted detached,
    runLines_of_terminateRequested observer _ _ state endingNow,
    finish_detached observer state detachedNow]
  rfl

end Interpreter

end ScriptDebugger
