import ScriptDebugger.Debugging.Threads
import ScriptDebugger.Proofs.Session.View

/-!
# Where the threads of a session are

Where the thread of a script is determines the status of the script and, as long as a debugger has not
let go of it, the phase to which all that was told leads.  An access of the debugger changes neither the
status nor, but for a disconnection, whether the script is attached.
-/

namespace ScriptDebugger

namespace ScriptStage

/-- Whether a thread is on its way through its script. -/
def runs : ScriptStage → Bool
  | .loading | .entering _ | .resuming _ | .before _ | .asking _ | .testing _ | .executing _
  | .ending => true
  | .telling .loaded (.before _) | .telling .resumed (.before _)
  | .telling .resumed (.executing _) => true
  | _ => false

/-- Whether a thread is with a debugger that may have stopped it, before it is suspended. -/
def holds : ScriptStage → Bool
  | .entering _ | .testing _ => true
  | _ => false

/-- The phase to which all that a thread has told leads, if the script is not about to end. -/
def phase? (status : Status) : ScriptStage → Option Phase
  | .outside => some (.ofStatus status)
  | .loading | .entering none | .telling .loaded _ => some .notStarted
  | .waiting none | .resuming none | .before _ | .asking _ | .testing _ | .executing _
  | .entering (some _) | .telling (.suspended _) _ | .telling .resumed (.before _) => some .running
  | .waiting (some line) | .resuming (some line) | .telling .resumed (.executing line) =>
    some (.suspended line)
  | _ => none

end ScriptStage

/-- `Stands interpreter stage` means that the status of the script fits to where its thread is. -/
inductive Stands (interpreter : Interpreter) : ScriptStage → Prop
  | unstarted : interpreter.status = .notStarted → Stands interpreter .outside
  | running {stage : ScriptStage} :
      stage.runs = true → interpreter.status = .running → Stands interpreter stage
  | announcing {line : Option Nat} :
      interpreter.status = .suspended line →
      Stands interpreter (.telling (Threads.suspensionSignal line) (.waiting line))
  | waiting {line : Option Nat} :
      interpreter.status = .suspended line → Stands interpreter (.waiting line)
  | quitting {line : Option Nat} {stage : ScriptStage} :
      interpreter.status = .suspended line → interpreter.terminateRequested = true →
      stage = .before 1 ∨ stage = .ending → Stands interpreter stage
  | ended {stage : ScriptStage} :
      interpreter.status = .terminated →
      stage = .detaching ∨ stage = .telling .terminated .outside ∨ stage = .outside →
      Stands interpreter stage

section Stands

variable {interpreter changed : Interpreter} {stage : ScriptStage}

theorem Stands.congr
    (stands : Stands interpreter stage) (status : changed.status = interpreter.status)
    (quits : interpreter.terminateRequested = true → changed.terminateRequested = true) :
    Stands changed stage := by
  cases stands with
  | unstarted unstarted => exact .unstarted (status.trans unstarted)
  | running runs running => exact .running runs (status.trans running)
  | announcing suspended => exact .announcing (status.trans suspended)
  | waiting suspended => exact .waiting (status.trans suspended)
  | quitting suspended ending place => exact .quitting (status.trans suspended) (quits ending) place
  | ended terminated place => exact .ended (status.trans terminated) place

theorem Stands.outside_of_notStarted
    (stands : Stands interpreter stage) (unstarted : interpreter.status = .notStarted) :
    stage = .outside := by
  cases stands with
  | unstarted => rfl
  | running _ status | announcing status | waiting status | quitting status | ended status =>
      rw [unstarted] at status
      cases status

end Stands

namespace Threads

/-! ## Steps of the script -/

theorem afterSuspension_runs (line : Option Nat) : (afterSuspension line).runs = true := by
  cases line <;> rfl

theorem telling_afterSuspension_runs (line : Option Nat) :
    (ScriptStage.telling .resumed (afterSuspension line)).runs = true := by
  cases line <;> rfl

theorem afterQuitting_cases (line : Option Nat) :
    afterQuitting line = .before 1 ∨ afterQuitting line = .ending := by
  cases line with
  | none => exact .inl rfl
  | some _ => exact .inr rfl

/-- A line that is executed changes the values of a script only. -/
theorem executed_frame (interpreter : Interpreter) (text : Option String) :
    text.elim interpreter interpreter.execute =
      { interpreter with
        bindings := (text.elim interpreter interpreter.execute).bindings
        output := (text.elim interpreter interpreter.execute).output } := by
  cases text with
  | none => rfl
  | some line => exact Interpreter.execute_frame interpreter line

/-- A step of a thread that is on its way through its script. -/
theorem stands_advance_running
    {threads : Threads} (runs : threads.script.runs = true)
    (running : threads.session.state.target.status = .running) :
    Stands threads.advanceScript.session.state.target threads.advanceScript.script := by
  obtain ⟨session, worker, script⟩ := threads
  cases script with
  | outside | waiting | detaching => cases runs
  | loading =>
      refine .running ?_ running
      simp only [advanceScript]
      split
      · split <;> rfl
      · rfl
  | entering line => exact .announcing rfl
  | telling signal next =>
      cases signal with
      | suspended | terminated => cases runs
      | loaded =>
          cases next with
          | before number => exact .running rfl running
          | _ => cases runs
      | resumed =>
          cases next with
          | before number | executing number => exact .running rfl running
          | _ => cases runs
  | resuming line =>
      refine .running ?_ running
      simp only [advanceScript]
      split
      · exact telling_afterSuspension_runs line
      · exact afterSuspension_runs line
  | before number | asking number | testing number =>
      refine .running ?_ running
      simp only [advanceScript]
      split <;> rfl
  | executing number =>
      refine .running rfl ?_
      simp only [advanceScript, Session.withTarget]
      rw [executed_frame]
      exact running
  | ending => exact .ended rfl (.inl rfl)

theorem stands_advanceScript
    {threads : Threads} (stands : Stands threads.session.state.target threads.script) :
    Stands threads.advanceScript.session.state.target threads.advanceScript.script := by
  obtain ⟨session, worker, script⟩ := threads
  cases stands with
  | unstarted unstarted => exact .unstarted unstarted
  | running runs running => exact stands_advance_running runs running
  | announcing suspended => exact .waiting suspended
  | @waiting line suspended =>
      simp only [advanceScript]
      split
      case isTrue ending => exact .quitting suspended ending (afterQuitting_cases line)
      case isFalse =>
        split
        · exact .running rfl rfl
        · exact .waiting suspended
  | quitting suspended ending place =>
      rcases place with rfl | rfl
      · refine .quitting suspended ending (.inr ?_)
        have goesOn : session.state.target.terminateRequested = true := ending
        simp [advanceScript, goesOn]
      · exact .ended rfl (.inl rfl)
  | ended terminated place =>
      rcases place with rfl | rfl | rfl
      · refine .ended terminated (.inr ?_)
        simp only [advanceScript]
        split
        · exact .inl rfl
        · exact .inr rfl
      · exact .ended terminated (.inr (.inr rfl))
      · exact .ended terminated (.inr (.inr rfl))

/-- What a step of the script leaves as it is. -/
theorem advanceScript_frame (threads : Threads) :
    threads.advanceScript.worker = threads.worker ∧
      threads.advanceScript.session.state.phase = threads.session.state.phase ∧
      threads.advanceScript.session.queue.stopped = threads.session.queue.stopped ∧
      (threads.session.state.target.attached = false →
        threads.advanceScript.session.state.target.attached = false) := by
  obtain ⟨session, worker, script⟩ := threads
  cases script with
  | outside | loading | entering | resuming | before | asking | testing | ending =>
      exact ⟨rfl, rfl, rfl, id⟩
  | detaching => exact ⟨rfl, rfl, rfl, fun _ => rfl⟩
  | telling signal next =>
      refine ⟨rfl, rfl, ?_, id⟩
      simp only [advanceScript, Session.signal, EventQueue.post]
      split <;> rfl
  | waiting line =>
      simp only [advanceScript]
      split
      · exact ⟨rfl, rfl, rfl, id⟩
      · split
        · exact ⟨rfl, rfl, rfl, id⟩
        · exact ⟨rfl, rfl, rfl, id⟩
  | executing number =>
      refine ⟨rfl, rfl, rfl, fun detached => ?_⟩
      simp only [advanceScript, Session.withTarget]
      rw [executed_frame]
      exact detached

end Threads

/-! ## Accesses of the debugger -/

/-- Whether an access neither lets go of the script nor tells of its run. -/
def Access.isPlain : Access → Bool
  | .detach | .stop => false
  | .post notice => !notice.isLifecycle
  | _ => true

theorem Request.accesses_plain {request : Request} (other : request ≠ .disconnect) :
    ∀ access ∈ request.accesses, access.isPlain = true := by
  cases request with
  | disconnect => exact absurd rfl other
  | resume | terminate | breakpoint | fetchVariables | changeVariable | evaluate | fetchMemory =>
      simp [accesses, Access.isPlain]

theorem Interpreter.resume_keeps (interpreter : Interpreter) :
    interpreter.resume.status = interpreter.status ∧
      interpreter.resume.attached = interpreter.attached ∧
      interpreter.resume.terminateRequested = interpreter.terminateRequested := by
  rw [resume_frame]
  exact ⟨rfl, rfl, rfl⟩

theorem Interpreter.terminate_eq_ok
    {interpreter ending : Interpreter} (done : interpreter.terminate = .ok ending) :
    ending = { interpreter with terminateRequested := true } := by
  unfold terminate at done
  split at done
  · cases done
  · exact (Except.ok.inj done).symm

namespace Session

section Accesses

variable (session : Session Interpreter) (later : List Access) (access : Access)

/-- An access does not change where a script stands, and takes no request to end back. -/
theorem access_target :
    (session.access later access).1.state.target.status = session.state.target.status ∧
      (session.state.target.terminateRequested = true →
        (session.access later access).1.state.target.terminateRequested = true) := by
  cases access with
  | setStepping | changeBreakpoint | detach | stop | readVariables | readMemory | post =>
      exact ⟨rfl, id⟩
  | resume =>
      obtain ⟨status, _, ending⟩ := session.state.target.resume_keeps
      exact ⟨status, ending.trans⟩
  | terminate =>
      simp only [Session.access]
      split
      case h_1 done =>
        rw [Interpreter.terminate_eq_ok done]
        exact ⟨rfl, fun _ => rfl⟩
      case h_2 => exact ⟨rfl, id⟩
  | setVariable name content =>
      simp only [Session.access, Interpreter.setVariable]
      cases Text.isIdentifier name <;> exact ⟨rfl, id⟩
  | evaluate evaluation =>
      simp only [Session.access]
      split <;> exact ⟨rfl, id⟩

variable {access}

/-- What a plain access leaves as it is. -/
theorem access_plain (plain : access.isPlain = true) :
    (session.access later access).1.state.target.attached = session.state.target.attached ∧
      (session.access later access).1.state.phase = session.state.phase ∧
      ((session.access later access).1.queue = session.queue ∨
        ∃ notice, notice.isLifecycle = false ∧
          (session.access later access).1.queue = session.queue.post (.notice notice)) := by
  cases access with
  | detach | stop => cases plain
  | setStepping | changeBreakpoint | readVariables | readMemory => exact ⟨rfl, rfl, .inl rfl⟩
  | post notice => exact ⟨rfl, rfl, .inr ⟨notice, by simpa [Access.isPlain] using plain, rfl⟩⟩
  | resume =>
      obtain ⟨_, attached, _⟩ := session.state.target.resume_keeps
      exact ⟨attached, rfl, .inl rfl⟩
  | terminate =>
      simp only [Session.access]
      split
      case h_1 done =>
        rw [Interpreter.terminate_eq_ok done]
        exact ⟨rfl, rfl, .inl rfl⟩
      case h_2 => exact ⟨rfl, rfl, .inl rfl⟩
  | setVariable name content =>
      simp only [Session.access, Interpreter.setVariable]
      cases Text.isIdentifier name <;> exact ⟨rfl, rfl, .inl rfl⟩
  | evaluate evaluation =>
      simp only [Session.access]
      split <;> exact ⟨rfl, rfl, .inl rfl⟩

variable {later}

/-- After a plain access only plain ones are made. -/
theorem access_later (plain : ∀ other ∈ access :: later, other.isPlain = true) :
    ∀ other ∈ (session.access later access).2, other.isPlain = true := by
  have rest : ∀ other ∈ later, other.isPlain = true :=
    fun other member => plain other (List.mem_cons_of_mem _ member)
  have none : ∀ other ∈ ([] : List Access), other.isPlain = true := by simp
  cases access with
  | setStepping | changeBreakpoint | resume | detach | stop | post => exact rest
  | readVariables | readMemory => exact List.forall_mem_cons.mpr ⟨rfl, rest⟩
  | terminate | setVariable =>
      simp only [Session.access]
      split
      · exact rest
      · exact none
  | evaluate evaluation =>
      simp only [Session.access]
      split
      · exact List.forall_mem_cons.mpr ⟨rfl, rest⟩
      · exact none

variable (access later)

/-- An access that is made is not to be made again. -/
theorem access_later_ne : (session.access later access).2 ≠ access :: later := by
  have shorter : later ≠ access :: later := (List.cons_ne_self access later).symm
  cases access with
  | setStepping | changeBreakpoint | resume | detach | stop | post => exact shorter
  | readVariables | readMemory => simp [Session.access]
  | terminate | setVariable =>
      simp only [Session.access]
      split
      · exact shorter
      · simp
  | evaluate evaluation =>
      simp only [Session.access]
      split <;> simp

end Accesses

end Session

namespace Threads

theorem stands_advanceWorker
    {threads : Threads} (stands : Stands threads.session.state.target threads.script) :
    Stands threads.advanceWorker.session.state.target threads.advanceWorker.script := by
  obtain ⟨session, worker, script⟩ := threads
  cases worker with
  | waiting =>
      simp only [advanceWorker]
      split
      · split
        · exact stands
        · split <;> exact stands
      · exact stands
  | serving event accesses =>
      cases accesses with
      | nil => exact stands
      | cons access later =>
          obtain ⟨status, quits⟩ := session.access_target later access
          exact stands.congr status quits
  | showing event =>
      simp only [advanceWorker]
      split <;> exact stands
  | leaving => exact stands

theorem stands_step
    {threads : Threads} (stands : Stands threads.session.state.target threads.script) (turn : Turn) :
    Stands (threads.step turn).session.state.target (threads.step turn).script := by
  cases turn with
  | submit request => exact stands
  | worker => exact stands_advanceWorker stands
  | script => exact stands_advanceScript stands
  | start =>
      simp only [step, Interpreter.start]
      cases threads.session.state.target.status with
      | notStarted => exact .running rfl rfl
      | running | suspended | terminated => exact stands

end Threads

end ScriptDebugger
