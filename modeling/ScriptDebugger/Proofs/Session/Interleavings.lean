import ScriptDebugger.Proofs.Session.Stages

/-!
# What a session knows of its script, whatever its threads do

The worker of a session and the thread of its script take their steps in any order.  As long as the
debugger holds on to the script, all that was told and not seen yet leads the view to the phase of the
script.  A disconnection that resumes the script in vain, because the debugger has just stopped it and it
is not suspended yet, leaves a script that waits for ever.
-/

namespace ScriptDebugger

namespace Threads

/-! ## While the queue is at work -/

/-- The event that a worker has taken and the view has not followed yet. -/
def inHand : WorkerStage → List Event
  | .serving event _ | .showing event => [event]
  | .waiting | .leaving => []

/-- Whether a worker is about nothing that lets go of the script. -/
def Minds : WorkerStage → Prop
  | .waiting => True
  | .serving event accesses =>
    (event = .request .disconnect ∧ accesses = [.detach, .stop, .resume]) ∨
      (event ≠ .request .disconnect ∧ ∀ access ∈ accesses, access.isPlain = true)
  | .showing event => event ≠ .request .disconnect
  | .leaving => False

/-- The events that the view has not followed yet. -/
def unseen (threads : Threads) : List Event :=
  inHand threads.worker ++ threads.session.queue.pending

/-- A session whose debugger holds on to the script, with all that is on its way. -/
structure Working (threads : Threads) : Prop where
  running : threads.session.queue.worker = .running
  live : threads.session.queue.stopped = false
  minds : Minds threads.worker
  attached : threads.session.state.target.attached = true ↔
    threads.session.state.target.status ≠ .terminated ∨ threads.script = .detaching
  ended : .notice .terminated ∈ threads.unseen →
    threads.script = .outside ∧ threads.session.state.target.status = .terminated
  told : ∀ phase, threads.script.phase? threads.session.state.target.status = some phase →
    threads.session.state.phase.afterNotices (threads.unseen.filterMap Event.notice?) = phase

section Working

variable {threads : Threads}

/-- A step of an unended script that tells nothing. -/
theorem Working.move
    (working : threads.Working) {target : Interpreter} {script : ScriptStage}
    (unended : threads.session.state.target.status ≠ .terminated)
    (attached : target.attached = threads.session.state.target.attached)
    (goesOn : target.status ≠ .terminated)
    (told : ∀ phase, script.phase? target.status = some phase →
      threads.script.phase? threads.session.state.target.status = some phase) :
    Working { threads with session := threads.session.withTarget target, script := script } where
  running := working.running
  live := working.live
  minds := working.minds
  attached := by
    have held := working.attached.mpr (.inl unended)
    exact ⟨fun _ => .inl goesOn, fun _ => attached.trans held⟩
  ended member := absurd (working.ended member).2 unended
  told phase expected := working.told phase (told phase expected)

theorem unseen_signal (working : threads.Working) (signal : Signal) (script : ScriptStage) :
    unseen { threads with session := threads.session.signal signal, script := script } =
      threads.unseen ++ [.notice (threads.session.state.debugger.notice signal)] := by
  simp only [unseen, Session.signal, EventQueue.post, working.live]
  exact (List.append_assoc ..).symm

/-- A step in which the script tells a signal. -/
theorem Working.tell
    (working : threads.Working) {signal : Signal} {script : ScriptStage}
    (attached : threads.session.state.target.attached = true ↔
      threads.session.state.target.status ≠ .terminated ∨ script = .detaching)
    (ended : .notice .terminated ∈ threads.unseen ∨ signal = .terminated →
      script = .outside ∧ threads.session.state.target.status = .terminated)
    (told : ∀ known phase, threads.session.state.phase.afterNotices
        (threads.unseen.filterMap Event.notice?) = known →
      script.phase? threads.session.state.target.status = some phase →
      known.after (.notice (threads.session.state.debugger.notice signal)) = phase) :
    Working { threads with session := threads.session.signal signal, script := script } where
  running := by
    simp only [Session.signal, EventQueue.post, working.live]
    exact working.running
  live := by
    simp only [Session.signal, EventQueue.post, working.live]
    rfl
  minds := working.minds
  attached := attached
  ended member := by
    rw [unseen_signal working, List.mem_append, List.mem_singleton] at member
    apply ended
    rcases member with earlier | new
    · exact .inl earlier
    · exact .inr (Debugger.notice_eq_terminated (Event.notice.inj new).symm)
  told phase expected := by
    rw [unseen_signal working, List.filterMap_append, Phase.afterNotices_append]
    exact told _ phase rfl expected

/-- A signal of a script that has not ended. -/
theorem Working.tell_unended
    (working : threads.Working) {signal : Signal} {script : ScriptStage}
    (unended : threads.session.state.target.status ≠ .terminated) (other : signal ≠ .terminated)
    (told : ∀ known phase, script.phase? threads.session.state.target.status = some phase →
      Phase.after known (.notice (threads.session.state.debugger.notice signal)) = phase) :
    Working { threads with session := threads.session.signal signal, script := script } := by
  have attached := working.attached.mpr (.inl unended)
  refine working.tell ⟨fun _ => .inl unended, fun _ => attached⟩ ?_ fun known phase _ => told known phase
  rintro (earlier | finished)
  · exact absurd (working.ended earlier).2 unended
  · exact absurd finished other

/-- The step in which a script ends. -/
theorem Working.finish
    (working : threads.Working) (unended : threads.session.state.target.status ≠ .terminated) :
    Working { threads with
      session := threads.session.withTarget
        { threads.session.state.target with status := .terminated }
      script := .detaching } where
  running := working.running
  live := working.live
  minds := working.minds
  attached := ⟨fun _ => .inr rfl, fun _ => working.attached.mpr (.inl unended)⟩
  ended member := absurd (working.ended member).2 unended
  told _ expected := by cases expected

theorem Working.advance_running
    (working : threads.Working) (runs : threads.script.runs = true)
    (running : threads.session.state.target.status = .running) :
    threads.advanceScript.Working := by
  obtain ⟨session, worker, script⟩ := threads
  have unended : session.state.target.status ≠ .terminated :=
    fun finished => by cases running.symm.trans finished
  have attached : session.state.target.attached = true := working.attached.mpr (.inl unended)
  cases script with
  | outside | waiting | detaching => cases runs
  | loading =>
      refine working.move unended rfl unended ?_
      simp only [attached, if_true]
      split <;> exact fun _ => id
  | entering line =>
      refine working.move unended rfl (by simp [Interpreter.suspendedAt]) ?_
      cases line <;> exact fun _ => id
  | resuming line =>
      refine working.move unended rfl unended ?_
      simp only [attached, if_true]
      cases line <;> exact fun _ => id
  | before number =>
      refine working.move unended rfl unended ?_
      split
      · exact fun _ => id
      · exact fun _ expected => by cases expected
  | asking number | testing number =>
      refine working.move unended rfl unended ?_
      split <;> exact fun _ => id
  | executing number =>
      have frame := executed_frame session.state.target (session.state.target.line? number)
      refine working.move unended ?_ ?_ fun _ => id
      · rw [frame]
      · rw [frame]
        exact unended
  | ending => exact working.finish unended
  | telling signal next =>
      cases signal with
      | suspended | terminated => cases runs
      | loaded =>
          refine working.tell_unended unended (by simp) fun known phase expected => ?_
          cases next with
          | before number => exact Option.some.inj expected
          | _ => cases runs
      | resumed =>
          refine working.tell_unended unended (by simp) fun known phase expected => ?_
          cases next with
          | before number | executing number => exact Option.some.inj expected
          | _ => cases runs

/-- A step of a script whose debugger holds on to it. -/
theorem Working.advanceScript
    (working : threads.Working) (stands : Stands threads.session.state.target threads.script) :
    threads.advanceScript.Working := by
  obtain ⟨session, worker, script⟩ := threads
  cases stands with
  | unstarted unstarted => exact working
  | running runs running => exact working.advance_running runs running
  | @announcing line suspended =>
      have unended : session.state.target.status ≠ .terminated :=
        fun finished => by cases suspended.symm.trans finished
      refine working.tell_unended unended (by cases line <;> simp [suspensionSignal]) ?_
      intro known phase expected
      cases line <;> exact Option.some.inj expected
  | @waiting line suspended =>
      have unended : session.state.target.status ≠ .terminated :=
        fun finished => by cases suspended.symm.trans finished
      simp only [Threads.advanceScript]
      split
      · refine working.move unended rfl unended ?_
        cases line with
        | none => exact fun _ => id
        | some number => exact fun _ expected => by cases expected
      · split
        · refine working.move unended rfl (by simp) ?_
          cases line <;> exact fun _ => id
        · exact working
  | quitting suspended ending place =>
      have unended : session.state.target.status ≠ .terminated :=
        fun finished => by cases suspended.symm.trans finished
      rcases place with rfl | rfl
      · refine working.move unended rfl unended ?_
        split
        · exact fun _ => id
        · exact fun _ expected => by cases expected
      · exact working.finish unended
  | ended terminated place =>
      rcases place with rfl | rfl | rfl
      · -- The debugger is taken away first and told of the end by the next step.
        have attached : session.state.target.attached = true := working.attached.mpr (.inr rfl)
        simp only [Threads.advanceScript, attached, if_true]
        refine ⟨working.running, working.live, working.minds, ?_, ?_, ?_⟩
        · simpa [Session.withTarget] using terminated
        · exact fun member => absurd (working.ended member).1 (by simp)
        · exact fun _ expected => by cases expected
      · refine working.tell ?_ ?_ ?_
        · simpa using working.attached
        · exact fun _ => ⟨rfl, terminated⟩
        · intro known phase _ expected
          have known : Phase.ofStatus session.state.target.status = phase := Option.some.inj expected
          rw [← known, terminated]
          rfl
      · exact working

theorem Working.submit (working : threads.Working) (request : Request) :
    (threads.step (.submit request)).Working := by
  have queue : (threads.step (.submit request)).session.queue =
      { threads.session.queue with
        pending := threads.session.queue.pending ++ [.request request] } := by
    simp only [step, Session.submit, EventQueue.post, working.live]
    rfl
  have unseen : (threads.step (.submit request)).unseen =
      threads.unseen ++ [.request request] := by
    rw [Threads.unseen, queue]
    exact (List.append_assoc ..).symm
  refine ⟨?_, ?_, working.minds, working.attached, ?_, ?_⟩
  · rw [queue]
    exact working.running
  · rw [queue]
    exact working.live
  · intro member
    rw [unseen, List.mem_append, List.mem_singleton] at member
    rcases member with earlier | new
    · exact working.ended earlier
    · cases new
  · intro phase expected
    rw [unseen, List.filterMap_append, Phase.afterNotices_append]
    exact working.told phase expected

theorem Working.start
    (working : threads.Working) (stands : Stands threads.session.state.target threads.script) :
    (threads.step .start).Working := by
  simp only [step, Interpreter.start]
  cases status : threads.session.state.target.status with
  | running | suspended | terminated => exact working
  | notStarted =>
      have outside := stands.outside_of_notStarted status
      refine working.move (by simp [status]) rfl (by simp) ?_
      intro phase expected
      rw [outside, status]
      exact expected

/-- What a plain access changes in what a session knows. -/
theorem Working.access
    {session : Session Interpreter} {event : Event} {access : Access} {later : List Access}
    {script : ScriptStage}
    (working : Working ⟨session, .serving event (access :: later), script⟩)
    (other : event ≠ .request .disconnect)
    (plain : ∀ each ∈ access :: later, each.isPlain = true) :
    Working ⟨(session.access later access).1, .serving event (session.access later access).2,
      script⟩ := by
  obtain ⟨status, _⟩ := session.access_target later access
  obtain ⟨attached, phase, queue⟩ := session.access_plain later (plain access List.mem_cons_self)
  have live : session.queue.stopped = false := working.live
  have told := working.told
  have ended := working.ended
  simp only [unseen, inHand] at told ended
  rcases queue with same | ⟨notice, answer, posted⟩
  · refine ⟨?_, ?_, .inr ⟨other, session.access_later plain⟩, ?_, ?_, ?_⟩
    · rw [same]
      exact working.running
    · rw [same]
      exact live
    · rw [attached, status]
      exact working.attached
    · simp only [unseen, inHand, same, status]
      exact ended
    · simp only [unseen, inHand, same, status, phase]
      exact told
  · simp only [EventQueue.post, live, Bool.false_eq_true, if_false] at posted
    refine ⟨?_, ?_, .inr ⟨other, session.access_later plain⟩, ?_, ?_, ?_⟩
    · rw [posted]
      exact working.running
    · rw [posted]
    · rw [attached, status]
      exact working.attached
    · simp only [unseen, inHand, posted, status]
      rw [← List.append_assoc, List.mem_append, List.mem_singleton]
      rintro (earlier | new)
      · exact ended earlier
      · obtain rfl := Event.notice.inj new
        cases answer
    · simp only [unseen, inHand, posted, status, phase]
      intro known expected
      rw [← List.append_assoc, List.filterMap_append, Phase.afterNotices_append,
        told known expected]
      exact Phase.afterNotices_answers known (by simpa [Event.notice?] using answer)

end Working

/-! ## After the end -/

/-- A session whose script has told its end. -/
structure Finished (threads : Threads) : Prop where
  stopped : threads.session.queue.stopped = true
  worker : threads.worker = .waiting ∨ threads.worker = .leaving
  script : threads.script = .outside
  phase : threads.session.state.phase = .terminated
  status : threads.session.state.target.status = .terminated

/-- A session whose debugger is letting go of the script, which it has not resumed yet. -/
structure Parting (threads : Threads) : Prop where
  worker : threads.worker = .serving (.request .disconnect) [.stop, .resume] ∨
    threads.worker = .serving (.request .disconnect) [.resume] ∧
      threads.session.queue.stopped = true
  detached : threads.session.state.target.attached = false

/-- A script that will not wait any more unless a debugger is attached. -/
structure Free (threads : Threads) : Prop where
  unheld : threads.script.holds = false
  resumed : ∀ line, threads.session.state.target.status = .suspended line →
    threads.session.state.target.resumeRequested = true ∨
      threads.session.state.target.terminateRequested = true

/-- A session whose debugger has let go of the script. -/
structure Released (missed : Prop) (threads : Threads) : Prop where
  detached : threads.session.state.target.attached = false
  stopped : threads.session.queue.stopped = true
  free : missed ∨ threads.Free

/-- Without a debugger a running script does not stop. -/
theorem Free.advance_running
    {threads : Threads} (free : threads.Free) (runs : threads.script.runs = true)
    (running : threads.session.state.target.status = .running)
    (detached : threads.session.state.target.attached = false) :
    threads.advanceScript.Free := by
  obtain ⟨session, worker, script⟩ := threads
  have awake : ∀ line, session.state.target.status ≠ .suspended line :=
    fun line waits => by cases running.symm.trans waits
  have alone : session.state.target.attached = false := detached
  cases script with
  | outside | waiting | detaching => cases runs
  | entering | testing => cases free.unheld
  | loading | asking number =>
      refine ⟨?_, fun line waits => absurd waits (awake line)⟩
      simp only [Threads.advanceScript, alone]
      rfl
  | telling signal next =>
      refine ⟨?_, fun line waits => absurd waits (awake line)⟩
      cases next with
      | entering | testing => cases signal <;> cases runs
      | _ => rfl
  | resuming line =>
      refine ⟨?_, fun line waits => absurd waits (awake line)⟩
      simp only [Threads.advanceScript, alone]
      cases line <;> rfl
  | before number =>
      refine ⟨?_, fun line waits => absurd waits (awake line)⟩
      simp only [Threads.advanceScript]
      split <;> rfl
  | executing number =>
      refine ⟨rfl, fun line waits => absurd ?_ (awake line)⟩
      simp only [Threads.advanceScript, Session.withTarget] at waits
      rw [executed_frame] at waits
      exact waits
  | ending => exact ⟨rfl, fun line waits => by cases waits⟩

theorem Free.advanceScript
    {threads : Threads} (free : threads.Free)
    (stands : Stands threads.session.state.target threads.script)
    (detached : threads.session.state.target.attached = false) :
    threads.advanceScript.Free := by
  obtain ⟨session, worker, script⟩ := threads
  cases stands with
  | unstarted => exact free
  | running runs running => exact free.advance_running runs running detached
  | announcing => exact ⟨rfl, free.resumed⟩
  | @waiting line suspended =>
      simp only [Threads.advanceScript]
      split
      · refine ⟨?_, free.resumed⟩
        cases line <;> rfl
      · split
        · exact ⟨rfl, fun line waits => by cases waits⟩
        · exact free
  | quitting suspended ending place =>
      rcases place with rfl | rfl
      · refine ⟨?_, free.resumed⟩
        simp only [Threads.advanceScript]
        split <;> rfl
      · exact ⟨rfl, fun line waits => by cases waits⟩
  | ended terminated place =>
      rcases place with rfl | rfl | rfl
      · refine ⟨?_, free.resumed⟩
        simp only [Threads.advanceScript]
        split <;> rfl
      · exact ⟨rfl, free.resumed⟩
      · exact free

theorem Released.script
    {threads : Threads} {missed : Prop} (released : threads.Released missed)
    (stands : Stands threads.session.state.target threads.script) :
    threads.advanceScript.Released missed := by
  obtain ⟨_, _, stopped, detached⟩ := threads.advanceScript_frame
  exact ⟨detached released.detached, stopped.trans released.stopped,
    released.free.imp id fun free => free.advanceScript stands released.detached⟩

theorem Released.start
    {threads : Threads} {missed : Prop} (released : threads.Released missed) :
    (threads.step .start).Released missed := by
  simp only [step, Interpreter.start]
  cases threads.session.state.target.status with
  | running | suspended | terminated => exact released
  | notStarted =>
      have free : ∀ line, Status.running ≠ .suspended line := by simp
      exact ⟨released.detached, released.stopped,
        .inr ⟨rfl, fun line waits => absurd waits (free line)⟩⟩

/-- A released script stays so as long as it is left alone. -/
theorem Released.keep
    {threads other : Threads} {missed : Prop} (released : threads.Released missed)
    (script : other.script = threads.script)
    (target : other.session.state.target = threads.session.state.target)
    (stopped : other.session.queue.stopped = true) :
    other.Released missed where
  detached := by
    rw [target]
    exact released.detached
  stopped := stopped
  free := by
    refine released.free.imp id fun free => ⟨?_, ?_⟩
    · rw [script]
      exact free.unheld
    · rw [target]
      exact free.resumed

theorem submit_of_stopped
    {threads : Threads} (stopped : threads.session.queue.stopped = true) (request : Request) :
    threads.step (.submit request) = threads := by
  simp only [step, Session.submit, EventQueue.post, stopped, if_true]

/-! ## Whatever happens -/

/-- Whether the debugger is about to resume a script that it has let go of, while the thread of the
script is on its way into a suspension. -/
def misses (threads : Threads) : Bool :=
  threads.worker = .serving (.request .disconnect) [.resume] && threads.script.holds

/-- Whether in one of the turns a script is resumed too early. -/
def missesResume (threads : Threads) : List Turn → Bool
  | [] => false
  | turn :: later => (turn = .worker && threads.misses) || (threads.step turn).missesResume later

/-- `Watched handled missed threads` means that the session, whose debugger has handled the requests
`handled`, knows as much of its script as is on its way, or has ended; `missed` stands for a resumption
that came too early. -/
inductive Watched (handled : List Request) (missed : Prop) (threads : Threads) : Prop
  | working : .disconnect ∉ handled → threads.Working → Watched handled missed threads
  | finished : .disconnect ∉ handled → threads.Finished → Watched handled missed threads
  | parting : .disconnect ∉ handled → threads.Parting → Watched handled missed threads
  | parted :
      .disconnect ∉ handled →
      threads.worker = .serving (.request .disconnect) [] ∨
        threads.worker = .showing (.request .disconnect) →
      threads.Released missed →
      Watched handled missed threads
  | left :
      .disconnect ∈ handled →
      threads.worker = .waiting ∨ threads.worker = .leaving →
      threads.session.state.phase = .disconnected →
      threads.Released missed →
      Watched handled missed threads

section Watched

variable {threads : Threads} {handled : List Request} {missed : Prop}

theorem Watched.submit (watched : threads.Watched handled missed) (request : Request) :
    (threads.step (.submit request)).Watched handled missed := by
  cases watched with
  | working kept working => exact .working kept (working.submit request)
  | finished kept finished =>
      rw [submit_of_stopped finished.stopped]
      exact .finished kept finished
  | parting kept parting =>
      refine .parting kept ⟨?_, parting.detached⟩
      rcases parting.worker with worker | ⟨worker, stopped⟩
      · exact .inl worker
      · rw [submit_of_stopped stopped]
        exact .inr ⟨worker, stopped⟩
  | parted kept worker released =>
      rw [submit_of_stopped released.stopped]
      exact .parted kept worker released
  | left leaving worker phase released =>
      rw [submit_of_stopped released.stopped]
      exact .left leaving worker phase released

theorem Watched.start
    (watched : threads.Watched handled missed)
    (stands : Stands threads.session.state.target threads.script) :
    (threads.step .start).Watched handled missed := by
  cases watched with
  | working kept working => exact .working kept (working.start stands)
  | finished kept finished =>
      have refused : threads.step .start = threads := by
        simp only [step, Interpreter.start, finished.status]
      rw [refused]
      exact .finished kept finished
  | parting kept parting =>
      refine .parting kept ?_
      simp only [step, Interpreter.start]
      cases threads.session.state.target.status <;> exact ⟨parting.worker, parting.detached⟩
  | parted kept worker released =>
      refine .parted kept ?_ released.start
      simp only [step, Interpreter.start]
      cases threads.session.state.target.status <;> exact worker
  | left leaving worker phase released =>
      refine .left leaving ?_ ?_ released.start
      · simp only [step, Interpreter.start]
        cases threads.session.state.target.status <;> exact worker
      · simp only [step, Interpreter.start]
        cases threads.session.state.target.status <;> exact phase

theorem Watched.script
    (watched : threads.Watched handled missed)
    (stands : Stands threads.session.state.target threads.script) :
    threads.advanceScript.Watched handled missed := by
  obtain ⟨worker, phase, stopped, detached⟩ := threads.advanceScript_frame
  cases watched with
  | working kept working => exact .working kept (working.advanceScript stands)
  | finished kept finished =>
      have still : threads.advanceScript = threads := by
        simp only [advanceScript, finished.script]
      rw [still]
      exact .finished kept finished
  | parting kept parting =>
      refine .parting kept ⟨?_, detached parting.detached⟩
      rw [worker, stopped]
      exact parting.worker
  | parted kept place released =>
      exact .parted kept (worker ▸ place) (released.script stands)
  | left leaving place known released =>
      exact .left leaving (worker ▸ place) (phase.trans known) (released.script stands)

/-- A step of a worker whose debugger holds on to the script. -/
theorem Working.watched
    (kept : .disconnect ∉ handled) (working : threads.Working) :
    threads.advanceWorker.Watched (handled ++ (threads.handles? .worker).toList) missed := by
  obtain ⟨session, worker, script⟩ := threads
  have running : session.queue.worker = .running := working.running
  have live : session.queue.stopped = false := working.live
  cases worker with
  | leaving => exact working.minds.elim
  | waiting =>
      refine .working (by simpa [handles?] using kept) ?_
      simp only [advanceWorker]
      rw [if_pos running, if_neg (by simp [live])]
      split
      · exact working
      case h_2 event rest pending =>
        -- The event goes from the queue into the worker's hand, so what is unseen stays the same.
        have ended := working.ended
        have told := working.told
        simp only [unseen, inHand, pending] at ended told
        refine ⟨running, live, ?_, working.attached, ended, told⟩
        cases event with
        | notice notice => exact .inr ⟨by simp, by simp [Event.accesses]⟩
        | request request =>
            by_cases leaves : request = .disconnect
            · rw [leaves]
              exact .inl ⟨rfl, rfl⟩
            · exact .inr ⟨by simpa using leaves, Request.accesses_plain leaves⟩
  | serving event accesses =>
      have handledNone : handled ++ (handles? ⟨session, .serving event accesses, script⟩
          .worker).toList = handled := List.append_nil _
      rw [handledNone]
      rcases working.minds with ⟨rfl, rfl⟩ | ⟨other, plain⟩
      · exact .parting kept ⟨.inl rfl, rfl⟩
      · cases accesses with
        | nil =>
            exact .working kept
              ⟨running, live, other, working.attached, working.ended, working.told⟩
        | cons access later => exact .working kept (working.access other plain)
  | showing event =>
      have other : event ≠ .request .disconnect := working.minds
      cases event with
      | request request =>
          have kind : request ≠ .disconnect := by simpa using other
          refine .working (by simp [handles?, kept, kind.symm]) ?_
          refine ⟨running, live, trivial, working.attached, ?_, ?_⟩
          · exact fun member => working.ended (List.mem_cons_of_mem _ member)
          · intro phase expected
            have told := working.told phase expected
            simp only [advanceWorker, Event.isFinal, Bool.false_eq_true, if_false,
              SessionState.follow, Phase.after_request _ kind]
            exact told
      | notice notice =>
          by_cases final : notice = .terminated
          · obtain ⟨outside, terminated⟩ := working.ended (by simp [unseen, inHand, final])
            subst final
            exact .finished (by simpa [handles?] using kept)
              ⟨rfl, .inr rfl, outside, rfl, terminated⟩
          · have goesOn : (Event.notice notice).isFinal = false := by
              cases notice with
              | terminated => exact absurd rfl final
              | started | suspended | resumed | bindings | evaluated | memory => rfl
            refine .working (by simpa [handles?] using kept) ?_
            simp only [advanceWorker, goesOn, Bool.false_eq_true, if_false]
            exact ⟨running, live, trivial, working.attached,
              fun member => working.ended (List.mem_cons_of_mem _ member), working.told⟩

theorem Watched.worker
    (watched : threads.Watched handled missed) (late : threads.misses = true → missed) :
    threads.advanceWorker.Watched (handled ++ (threads.handles? .worker).toList) missed := by
  cases watched with
  | working kept working => exact working.watched kept
  | finished kept finished =>
      obtain ⟨session, worker, script⟩ := threads
      rcases finished.worker with rfl | rfl
      · have stopped : session.queue.stopped = true := finished.stopped
        refine .finished (by simpa [handles?] using kept) ?_
        simp only [advanceWorker, stopped, if_true]
        split
        · exact ⟨stopped, .inr rfl, finished.script, finished.phase, finished.status⟩
        · exact finished
      · exact .finished (by simpa [handles?] using kept)
          ⟨rfl, .inl rfl, finished.script, finished.phase, finished.status⟩
  | parting kept parting =>
      obtain ⟨session, worker, script⟩ := threads
      rcases parting.worker with rfl | ⟨rfl, stopped⟩
      · exact .parting (by simpa [handles?] using kept) ⟨.inr ⟨rfl, rfl⟩, parting.detached⟩
      · refine .parted (by simpa [handles?] using kept) (.inl rfl) ⟨?_, stopped, ?_⟩
        · obtain ⟨_, attached, _⟩ := session.state.target.resume_keeps
          exact attached.trans parting.detached
        · -- Only a thread that may have been stopped can be suspended after this resumption.
          cases holds : script.holds with
          | true => exact .inl (late (by simp [misses, holds]))
          | false =>
              refine .inr ⟨holds, fun line waits => .inl ?_⟩
              obtain ⟨status, _, _⟩ := session.state.target.resume_keeps
              have suspended : session.state.target.status = .suspended line :=
                status.symm.trans waits
              simp only [advanceWorker, Session.access, Session.withTarget, Interpreter.resume,
                suspended]
  | parted kept place released =>
      obtain ⟨session, worker, script⟩ := threads
      rcases place with rfl | rfl
      · exact .parted (by simpa [handles?] using kept) (.inr rfl)
          (released.keep rfl rfl released.stopped)
      · exact .left (by simp [handles?]) (.inl rfl) rfl (released.keep rfl rfl released.stopped)
  | left leaving place phase released =>
      obtain ⟨session, worker, script⟩ := threads
      have stopped : session.queue.stopped = true := released.stopped
      rcases place with rfl | rfl
      · refine .left (by simpa [handles?] using leaving) ?_ ?_ ?_
        all_goals simp only [advanceWorker, stopped, if_true]; split
        · exact .inr rfl
        · exact .inl rfl
        · exact phase
        · exact phase
        · exact released.keep rfl rfl stopped
        · exact released
      · exact .left (by simpa [handles?] using leaving) (.inl rfl) phase
          (released.keep rfl rfl rfl)

theorem Watched.step
    (watched : threads.Watched handled missed)
    (stands : Stands threads.session.state.target threads.script) (turn : Turn)
    (late : turn = .worker → threads.misses = true → missed) :
    (threads.step turn).Watched (handled ++ (threads.handles? turn).toList) missed := by
  cases turn with
  | submit request => simpa [handles?] using watched.submit request
  | start => simpa [handles?] using watched.start stands
  | script =>
      rw [handles?, Option.toList_none, List.append_nil]
      exact watched.script stands
  | worker => exact watched.worker (late rfl)

theorem Watched.run
    (watched : threads.Watched handled missed)
    (stands : Stands threads.session.state.target threads.script) (schedule : List Turn)
    (late : threads.missesResume schedule = true → missed) :
    (threads.run schedule).Watched (handled ++ threads.handledRequests schedule) missed ∧
      Stands (threads.run schedule).session.state.target (threads.run schedule).script := by
  induction schedule generalizing threads handled with
  | nil =>
      rw [handledRequests, List.append_nil]
      exact ⟨watched, stands⟩
  | cons turn later inductionHypothesis =>
      have next := watched.step stands turn fun worker misses =>
        late (by simp [missesResume, worker, misses])
      have rest := inductionHypothesis next (stands_step stands turn) fun misses =>
        late (by simp [missesResume, misses])
      rw [List.append_assoc] at rest
      exact rest

end Watched

/-! ## Settled sessions -/

theorem opened_working (source : String) (held : Bool) (breakpoints : List Nat) :
    (opened source held breakpoints).Working := by
  obtain ⟨queue, state⟩ := Session.create_eq (Interpreter.ofSource source held) breakpoints
  refine ⟨?_, ?_, trivial, ?_, ?_, ?_⟩
  · rw [opened, queue]
    rfl
  · rw [opened, queue]
    rfl
  · rw [opened, state]
    simp [Target.setAttached, Interpreter.ofSource]
  · rw [unseen, opened, queue]
    simp [inHand, workingQueue]
  · intro phase expected
    rw [unseen, opened, queue, state]
    rw [opened, state] at expected
    exact Option.some.inj expected

theorem opened_stands (source : String) (held : Bool) (breakpoints : List Nat) :
    Stands (opened source held breakpoints).session.state.target
      (opened source held breakpoints).script := by
  obtain ⟨_, state⟩ := Session.create_eq (Interpreter.ofSource source held) breakpoints
  refine .unstarted ?_
  rw [opened, state]
  rfl

section Settled

variable {threads : Threads}

theorem Settled.worker_waiting (settled : threads.Settled) : threads.worker = .waiting := by
  have still := congrArg Threads.worker settled.1
  obtain ⟨session, worker, script⟩ := threads
  cases worker with
  | waiting => rfl
  | leaving => cases still
  | showing event =>
      simp only [step, advanceWorker] at still
      split at still <;> cases still
  | serving event accesses =>
      cases accesses with
      | nil => cases still
      | cons access later =>
          have same : (session.access later access).2 = access :: later :=
            (WorkerStage.serving.inj still).2
          exact absurd same (session.access_later_ne later access)

theorem Settled.pending_eq_nil
    (settled : threads.Settled) (running : threads.session.queue.worker = .running)
    (live : threads.session.queue.stopped = false) :
    threads.session.queue.pending = [] := by
  have still := congrArg Threads.worker settled.1
  have waiting := settled.worker_waiting
  simp only [step, advanceWorker, waiting, running, live, if_true, Bool.false_eq_true,
    if_false] at still
  split at still
  case h_1 none => exact none
  case h_2 => cases still

theorem Settled.script_cases (settled : threads.Settled) :
    threads.script = .outside ∨
      ∃ line, threads.script = .waiting line ∧
        threads.session.state.target.terminateRequested = false ∧
        threads.session.state.target.resumeRequested = false := by
  have still := congrArg Threads.script settled.2
  obtain ⟨session, worker, script⟩ := threads
  simp only [step, advanceScript] at still
  cases script with
  | outside => exact .inl rfl
  | entering | executing | ending | telling => cases still
  | before | asking | testing | detaching =>
      dsimp only at still
      split at still <;> cases still
  | loading =>
      dsimp only at still
      split at still
      · split at still <;> cases still
      · cases still
  | resuming line =>
      dsimp only at still
      split at still
      · cases still
      · cases line <;> cases still
  | waiting line =>
      refine .inr ⟨line, rfl, ?_⟩
      dsimp only at still
      split at still
      · cases line <;> cases still
      case isFalse goesOn =>
        split at still
        · cases still
        case isFalse waits => exact ⟨by simpa using goesOn, by simpa using waits⟩

/-- A settled script is not in its run or waits. -/
theorem Settled.rests
    (settled : threads.Settled) (stands : Stands threads.session.state.target threads.script) :
    (threads.script = .outside ∧
        (threads.session.state.target.status = .notStarted ∨
          threads.session.state.target.status = .terminated)) ∨
      ∃ line, threads.script = .waiting line ∧
        threads.session.state.target.status = .suspended line ∧
        threads.session.state.target.terminateRequested = false ∧
        threads.session.state.target.resumeRequested = false := by
  rcases settled.script_cases with outside | ⟨line, waiting, quiet⟩
  · refine .inl ⟨outside, ?_⟩
    rw [outside] at stands
    cases stands with
    | unstarted unstarted => exact .inl unstarted
    | ended terminated => exact .inr terminated
    | running runs => cases runs
    | quitting _ _ place => simp at place
  · refine .inr ⟨line, waiting, ?_, quiet⟩
    rw [waiting] at stands
    cases stands with
    | waiting suspended => exact suspended
    | running runs => cases runs
    | quitting _ _ place => simp at place
    | ended _ place => simp at place

theorem Settled.not_running
    (settled : threads.Settled) (stands : Stands threads.session.state.target threads.script) :
    threads.session.state.target.status ≠ .running := by
  rcases settled.rests stands with ⟨_, status | status⟩ | ⟨line, _, status, _⟩ <;> simp [status]

/-- While the queue is at work, a settled session knows all of its script. -/
theorem Working.phase_of_settled
    (working : threads.Working) (settled : threads.Settled)
    (stands : Stands threads.session.state.target threads.script) :
    threads.session.state.phase = .ofStatus threads.session.state.target.status := by
  have unseen : threads.unseen = [] := by
    rw [Threads.unseen, settled.worker_waiting,
      settled.pending_eq_nil working.running working.live]
    rfl
  have told := working.told
  rw [unseen] at told
  apply told
  rcases settled.rests stands with ⟨outside, _⟩ | ⟨line, waiting, status, _⟩
  · rw [outside]
    rfl
  · rw [waiting, status]
    cases line <;> rfl

/-- A script that is let go of and settled does not wait. -/
theorem Free.rests
    (free : threads.Free) (settled : threads.Settled)
    (stands : Stands threads.session.state.target threads.script) :
    threads.session.state.target.status = .notStarted ∨
      threads.session.state.target.status = .terminated := by
  rcases settled.rests stands with ⟨_, status⟩ | ⟨line, _, status, ending, waiting⟩
  · exact status
  · rcases free.resumed line status with resumed | quits
    · rw [waiting] at resumed
      cases resumed
    · rw [ending] at quits
      cases quits

/-- A settled session that has ended stays as it is, whatever is asked of it. -/
theorem Settled.run_of_stopped
    (settled : threads.Settled) (stopped : threads.session.queue.stopped = true)
    (begun : threads.session.state.target.status ≠ .notStarted) (later : List Turn) :
    threads.run later = threads := by
  induction later with
  | nil => rfl
  | cons turn rest inductionHypothesis =>
      have same : threads.step turn = threads := by
        cases turn with
        | submit request => exact submit_of_stopped stopped request
        | worker => exact settled.1
        | script => exact settled.2
        | start =>
            simp only [step, Interpreter.start]
            split
            case h_1 started =>
              split at started
              case h_1 unstarted => exact absurd unstarted begun
              all_goals cases started
            case h_2 => rfl
      rw [run, List.foldl_cons, same]
      exact inductionHypothesis

end Settled

/-- In every settled session, in whatever order its threads took their steps, the session knows exactly
where its script stands, or it has let go of the script.  The script then does not wait anywhere, unless
it was resumed while its thread was on its way into a suspension. -/
theorem settled_view_agrees
    (source : String) (held : Bool) (breakpoints : List Nat) (schedule : List Turn)
    {threads : Threads} {handled : List Request}
    (reached : (opened source held breakpoints).run schedule = threads)
    (history : (opened source held breakpoints).handledRequests schedule = handled)
    (settled : threads.Settled) :
    (.disconnect ∉ handled →
      (threads.session.state.phase = .notStarted ↔
          threads.session.state.target.status = .notStarted) ∧
        (∀ line,
          threads.session.state.phase = .suspended line ↔
            threads.session.state.target.status = .suspended (some line)) ∧
        (threads.session.state.phase = .running ↔
          threads.session.state.target.status = .suspended none) ∧
        (threads.session.state.phase = .terminated ↔
          threads.session.state.target.status = .terminated)) ∧
      (.disconnect ∈ handled →
        threads.session.state.phase = .disconnected ∧
          threads.session.state.target.attached = false ∧
          ((opened source held breakpoints).missesResume schedule = false →
            threads.session.state.target.status = .notStarted ∨
              threads.session.state.target.status = .terminated)) := by
  have fresh : (opened source held breakpoints).Watched []
      ((opened source held breakpoints).missesResume schedule = true) :=
    .working List.not_mem_nil (opened_working source held breakpoints)
  obtain ⟨watched, stands⟩ := fresh.run (opened_stands source held breakpoints) schedule id
  rw [List.nil_append, history] at watched
  rw [reached] at watched stands
  have waiting := settled.worker_waiting
  constructor
  · intro kept
    refine Phase.agrees ?_ (settled.not_running stands)
    cases watched with
    | working _ working => exact working.phase_of_settled settled stands
    | finished _ finished => rw [finished.phase, finished.status, Phase.ofStatus]
    | parting _ parting =>
        have serving := parting.worker
        simp [waiting] at serving
    | parted _ place => simp [waiting] at place
    | left leaving => exact absurd leaving kept
  · intro leaving
    cases watched with
    | working kept | finished kept | parting kept | parted kept => exact absurd leaving kept
    | left _ _ phase released =>
        refine ⟨phase, released.detached, fun timely => ?_⟩
        rcases released.free with missed | free
        · rw [timely] at missed
          cases missed
        · exact free.rests settled stands

/-- A script is started and takes some steps, the debugger lets go of it, and it takes some more. -/
def disconnecting (before workers after : Nat) : List Turn :=
  .start :: List.replicate before .script ++ .submit .disconnect :: List.replicate workers .worker ++
    List.replicate after .script

theorem settled_view_agrees_let_go :
    ∃ threads handled,
      (opened "a=1\nb=2\nc=3" false [2]).run (disconnecting 11 14 9) = threads ∧
      (opened "a=1\nb=2\nc=3" false [2]).handledRequests (disconnecting 11 14 9) = handled ∧
      threads.Settled ∧
      .disconnect ∈ handled ∧
      threads.session.state.phase = .disconnected ∧
      threads.session.state.target.attached = false ∧
      (threads.session.state.target.status = .notStarted ∨
        threads.session.state.target.status = .terminated) := by
  have settled : ((opened "a=1\nb=2\nc=3" false [2]).run (disconnecting 11 14 9)).Settled :=
    ⟨rfl, rfl⟩
  have leaving : .disconnect ∈ (opened "a=1\nb=2\nc=3" false [2]).handledRequests
      (disconnecting 11 14 9) := by
    decide +kernel
  obtain ⟨phase, detached, status⟩ := (settled_view_agrees _ _ _ _ rfl rfl settled).2 leaving
  exact ⟨_, _, rfl, rfl, settled, leaving, phase, detached, status (by decide +kernel)⟩

/-- A disconnection between the decision to stop a script and its suspension leaves the script waiting
for ever. -/
theorem script_waits_after_early_resume :
    ∃ threads,
      (opened "a=1\nb=2\nc=3" false [2]).run (disconnecting 9 11 2) = threads ∧
      .disconnect ∈ (opened "a=1\nb=2\nc=3" false [2]).handledRequests (disconnecting 9 11 2) ∧
      threads.Settled ∧
      threads.session.state.phase = .disconnected ∧
      ∀ later, (threads.run later).session.state.target.status = .suspended (some 2) := by
  have settled : ((opened "a=1\nb=2\nc=3" false [2]).run (disconnecting 9 11 2)).Settled :=
    ⟨rfl, rfl⟩
  refine ⟨_, rfl, by decide +kernel, settled, rfl, fun later => ?_⟩
  rw [settled.run_of_stopped rfl (by decide +kernel)]
  rfl

end Threads

end ScriptDebugger
