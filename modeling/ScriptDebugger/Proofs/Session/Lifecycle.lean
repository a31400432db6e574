import ScriptDebugger.Proofs.Session.Actions

/-!
# The lifecycle that a session publishes

The notices that tell of a run form a word of a simple language: the run is started, is suspended at
ever later lines and resumed each time, and ends.  The trace of a session, which is what it has
published and what still waits to be published, determines where its script stands; each move of the
script extends the trace by what the language allows next.
-/

namespace ScriptDebugger

/-- A run as told from its start on. -/
structure Lifecycle where
  /-- For what cause a run that was held before its first line was resumed. -/
  first : Option ResumeCause := none
  /-- Where the run was suspended and for what cause it was resumed. -/
  stops : List (Nat × ResumeCause) := []
  /-- Where the run was suspended and not resumed. -/
  last : Option Nat := none

namespace Lifecycle

/-- The lines at which the run was suspended. -/
def lines (lifecycle : Lifecycle) : List Nat :=
  lifecycle.stops.map Prod.fst ++ lifecycle.last.toList

/-- The notices of a run that has not ended. -/
def opening (lifecycle : Lifecycle) : List Notice :=
  .started :: (lifecycle.first.toList.map .resumed ++
    lifecycle.stops.flatMap (fun stop => [.suspended stop.1, .resumed stop.2]) ++
    lifecycle.last.toList.map .suspended)

/-- The notices of a run that has ended. -/
def word (lifecycle : Lifecycle) : List Notice :=
  lifecycle.opening ++ [.terminated]

/-- Only a run that is held before its first line is resumed there, and a run is suspended at ever later
lines of its script. -/
structure Valid (held : Bool) (count : Nat) (lifecycle : Lifecycle) : Prop where
  first : lifecycle.first.isSome = true → held = true
  increasing : lifecycle.lines.Pairwise (· < ·)
  within : ∀ line ∈ lifecycle.lines, 1 ≤ line ∧ line ≤ count

/-- The run resumed where it was suspended. -/
def resumed (lifecycle : Lifecycle) (cause : ResumeCause) : Lifecycle :=
  match lifecycle.last with
  | none => { lifecycle with first := some cause }
  | some line => { lifecycle with stops := lifecycle.stops ++ [(line, cause)], last := none }

/-- A run that waits for its first line was not resumed yet. -/
def Fresh (lifecycle : Lifecycle) : Prop :=
  lifecycle.last = none → lifecycle.first = none ∧ lifecycle.stops = []

section Resumed

variable {lifecycle : Lifecycle} (cause : ResumeCause)

theorem last_resumed : (lifecycle.resumed cause).last = none := by
  unfold resumed
  split
  case h_1 ended => exact ended
  case h_2 => rfl

theorem lines_resumed : (lifecycle.resumed cause).lines = lifecycle.lines := by
  unfold resumed lines
  split
  case h_1 ended => simp [ended]
  case h_2 line suspended => simp [suspended]

theorem opening_resumed (fresh : lifecycle.Fresh) :
    (lifecycle.resumed cause).opening = lifecycle.opening ++ [.resumed cause] := by
  unfold resumed opening
  split
  case h_1 waiting =>
    obtain ⟨unresumed, none⟩ := fresh waiting
    simp [waiting, unresumed, none]
  case h_2 line suspended => simp [suspended]

theorem Valid.resumed
    {held : Bool} {count : Nat} (valid : lifecycle.Valid held count)
    (holds : lifecycle.last = none → held = true) :
    (lifecycle.resumed cause).Valid held count where
  first := by
    unfold Lifecycle.resumed
    split
    case h_1 waiting => exact fun _ => holds waiting
    case h_2 => exact valid.first
  increasing := by
    rw [lines_resumed]
    exact valid.increasing
  within := by
    rw [lines_resumed]
    exact valid.within

end Resumed

/-- The lines of a run come before every line after the place where it waits. -/
theorem Valid.lt_of_last
    {held : Bool} {count : Nat} {lifecycle : Lifecycle} {line : Nat}
    (valid : lifecycle.Valid held count) (fresh : lifecycle.Fresh)
    (after : lifecycle.last.getD 0 < line) :
    ∀ earlier ∈ lifecycle.lines, earlier < line := by
  intro earlier member
  have increasing := valid.increasing
  cases place : lifecycle.last with
  | none =>
      obtain ⟨_, none⟩ := fresh place
      simp [lines, place, none] at member
  | some last =>
      rw [place, Option.getD_some] at after
      simp only [lines, place, Option.toList_some, List.mem_append, List.mem_singleton] at member
      simp only [lines, place, Option.toList_some, List.pairwise_append, List.mem_singleton]
        at increasing
      rcases member with before | same
      · exact Nat.lt_trans (increasing.2.2 earlier before last rfl) after
      · exact same ▸ after

/-- The run suspended at a line. -/
def suspendedAt (lifecycle : Lifecycle) (line : Nat) : Lifecycle :=
  { lifecycle with last := some line }

theorem opening_suspendedAt
    {lifecycle : Lifecycle} (line : Nat) (going : lifecycle.last = none) :
    (lifecycle.suspendedAt line).opening = lifecycle.opening ++ [.suspended line] := by
  simp [suspendedAt, opening, going]

theorem Valid.suspendedAt
    {held : Bool} {count : Nat} {lifecycle : Lifecycle} {line : Nat}
    (valid : lifecycle.Valid held count) (going : lifecycle.last = none)
    (positive : 1 ≤ line) (within : line ≤ count)
    (later : ∀ earlier ∈ lifecycle.lines, earlier < line) :
    (lifecycle.suspendedAt line).Valid held count := by
  have extended : (lifecycle.suspendedAt line).lines = lifecycle.lines ++ [line] := by
    simp [Lifecycle.suspendedAt, lines, going]
  refine ⟨valid.first, ?_, ?_⟩
  · rw [extended, List.pairwise_append]
    refine ⟨valid.increasing, List.pairwise_singleton _ _, ?_⟩
    intro earlier member other same
    rw [List.mem_singleton.mp same]
    exact later earlier member
  · rw [extended]
    intro other member
    rcases List.mem_append.mp member with before | same
    · exact valid.within other before
    · rw [List.mem_singleton.mp same]
      exact ⟨positive, within⟩

end Lifecycle

/-! ## The trace of a script -/

/-- `Traced held count status trace` means that a script that stands at `status` has told `trace`. -/
inductive Traced (held : Bool) (count : Nat) : Status → List Notice → Prop
  | notStarted : Traced held count .notStarted []
  | suspended {lifecycle : Lifecycle} :
      lifecycle.Valid held count →
      lifecycle.Fresh →
      (lifecycle.last = none → held = true) →
      Traced held count (.suspended lifecycle.last) lifecycle.opening
  | terminated {lifecycle : Lifecycle} :
      lifecycle.Valid held count →
      Traced held count .terminated lifecycle.word

section Traced

variable {held : Bool} {count : Nat}

theorem Lifecycle.valid_fresh : Lifecycle.Valid held count {} := by
  constructor <;> simp [Lifecycle.lines]

theorem Traced.exists_word
    {status : Status} {trace : List Notice} (traced : Traced held count status trace) :
    ∃ lifecycle : Lifecycle, lifecycle.Valid held count ∧ trace <+: lifecycle.word := by
  cases traced with
  | notStarted => exact ⟨{}, Lifecycle.valid_fresh, List.nil_prefix⟩
  | suspended valid => exact ⟨_, valid, List.prefix_append _ _⟩
  | terminated valid => exact ⟨_, valid, List.prefix_rfl⟩

/-- A run that goes on, `lifecycle` having been told, is traced where it stops. -/
theorem Traced.halted
    {lifecycle : Lifecycle} {stops : Nat → Prop} {line : Nat} {stop : Option Nat}
    (debugger : Debugger) (valid : lifecycle.Valid held count) (going : lifecycle.last = none)
    (next : NextStop stops line count stop)
    (later : ∀ after, line < after → ∀ earlier ∈ lifecycle.lines, earlier < after) :
    Traced held count (.ofStop stop) (lifecycle.opening ++ [debugger.notice (.ofStop stop)]) := by
  cases stop with
  | none => exact .terminated valid
  | some stop =>
      obtain ⟨after, within, _, _⟩ := next
      have suspendedValid := valid.suspendedAt going (by omega) within (later stop after)
      have suspended : Traced held count (.suspended (some stop))
          (lifecycle.suspendedAt stop).opening :=
        .suspended suspendedValid (by simp [Lifecycle.Fresh, Lifecycle.suspendedAt])
          (by simp [Lifecycle.suspendedAt])
      rw [Lifecycle.opening_suspendedAt stop going] at suspended
      exact suspended

/-- What a move tells extends the trace to one of where the script stands then. -/
theorem Traced.move
    {interpreter moved : Interpreter} {stops : Nat → Prop} {signals : List Signal}
    {trace : List Notice} (debugger : Debugger)
    (traced : Traced held count interpreter.status trace)
    (holds : interpreter.suspendOnLoad = held)
    (length : interpreter.script.length = count)
    (attached : interpreter.attached = true ↔ interpreter.status ≠ .terminated)
    (move : Interpreter.Move stops interpreter moved signals) :
    Traced held count moved.status (trace ++ signals.map debugger.notice) := by
  cases move with
  | idle => simpa using traced
  | hold unstarted _ holdsNow =>
      rw [unstarted] at traced
      cases traced
      exact .suspended Lifecycle.valid_fresh (fun _ => ⟨rfl, rfl⟩) (fun _ => holds ▸ holdsNow)
  | quitUnstarted unstarted =>
      have attachedNow := attached.mpr (by simp [unstarted])
      rw [unstarted] at traced
      cases traced
      rw [Interpreter.told_attached _ attachedNow]
      exact .terminated Lifecycle.valid_fresh
  | quit suspended =>
      have attachedNow := attached.mpr (by simp [suspended])
      rw [suspended] at traced
      cases traced with
      | suspended valid =>
          rw [Interpreter.told_attached _ attachedNow]
          exact .terminated valid
  | @go place stop signal departs notEnding next =>
      -- The lines told before lie before the place that the run leaves, and so before its stop.
      rw [length] at next
      rw [Interpreter.haltedAt_status]
      cases departs with
      | start unstarted =>
          have attachedNow := attached.mpr (by simp [unstarted])
          rw [unstarted] at traced
          cases traced
          rw [Interpreter.told_attached _ attachedNow]
          exact .halted debugger Lifecycle.valid_fresh rfl next (by simp [Lifecycle.lines])
      | resume suspended =>
          have attachedNow := attached.mpr (by simp [suspended])
          rw [suspended] at traced
          cases traced with
          | @suspended lifecycle valid fresh waits =>
              have opened := Lifecycle.opening_resumed debugger.cause fresh
              have resumedValid := valid.resumed debugger.cause waits
              have ended := lifecycle.last_resumed debugger.cause
              have halted := Traced.halted debugger resumedValid ended next (by
                intro after beyond
                rw [Lifecycle.lines_resumed]
                exact valid.lt_of_last fresh beyond)
              rw [opened, List.append_assoc] at halted
              rw [Interpreter.told_attached _ attachedNow]
              exact halted

end Traced

/-! ## The trace of a session -/

/-- The notice that an event is. -/
def Event.notice? : Event → Option Notice
  | .notice told => some told
  | .request _ => none

/-- What is told of a run by what is published and what waits. -/
def trace (published : List Notice) (pending : List Event) : List Notice :=
  (published ++ pending.filterMap Event.notice?).filter Notice.isLifecycle

section Trace

variable (published : List Notice) (pending : List Event)

theorem trace_request_cons (request : Request) :
    trace published (.request request :: pending) = trace published pending :=
  rfl

theorem trace_notice_cons (notice : Notice) :
    trace published (.notice notice :: pending) = trace (published ++ [notice]) pending := by
  simp [trace, Event.notice?]

theorem trace_submit (request : Request) :
    trace published (pending ++ [.request request]) = trace published pending := by
  have none : [Event.request request].filterMap Event.notice? = [] := rfl
  rw [trace, List.filterMap_append, none, List.append_nil, trace]

theorem filterMap_notices (notices : List Notice) :
    (notices.map Event.notice).filterMap Event.notice? = notices := by
  rw [List.filterMap_map]
  exact List.filterMap_some

theorem trace_notices (notices : List Notice) :
    trace published (pending ++ notices.map .notice) =
      trace published pending ++ notices.filter Notice.isLifecycle := by
  rw [trace, List.filterMap_append, filterMap_notices, ← List.append_assoc, List.filter_append, trace]

end Trace

/-- The published notices tell of a run and end with it. -/
structure WellPublished (held : Bool) (count : Nat) (published : List Notice) : Prop where
  word : ∃ lifecycle : Lifecycle,
    lifecycle.Valid held count ∧ published.filter Notice.isLifecycle <+: lifecycle.word
  final : ∀ before after, published = before ++ .terminated :: after → after = []

theorem Traced.wellPublished
    {held : Bool} {count : Nat} {status : Status} {published : List Notice}
    {pending : List Event} (traced : Traced held count status (trace published pending))
    (final : ∀ before after, published = before ++ .terminated :: after → after = []) :
    WellPublished held count published := by
  obtain ⟨lifecycle, valid, word⟩ := traced.exists_word
  rw [trace, List.filter_append] at word
  exact ⟨⟨lifecycle, valid, (List.prefix_append _ _).trans word⟩, final⟩

theorem final_of_unfinished
    {published : List Notice} (unfinished : .terminated ∉ published) :
    ∀ before after, published = before ++ .terminated :: after → after = [] := by
  intro before after same
  rw [same] at unfinished
  simp at unfinished

theorem final_concat
    {published : List Notice} (unfinished : .terminated ∉ published) :
    ∀ before after, published ++ [.terminated] = before ++ .terminated :: after → after = [] := by
  intro before after same
  rcases List.eq_nil_or_concat after with none | ⟨rest, last, rfl⟩
  · exact none
  · have shifted : published ++ [.terminated] = (before ++ .terminated :: rest) ++ [last] := by
      simpa using same
    have earlier := (List.append_inj' shifted rfl).1
    rw [earlier] at unfinished
    simp at unfinished

namespace Session

/-- While its queue is at work the trace of a session tells where the script stands, and the end of the
run is not published. -/
inductive Chronicled (held : Bool) (count : Nat) (session : Session Interpreter) : Prop
  | working {pending : List Event} :
      session.queue = workingQueue pending →
      Traced held count session.state.target.status (trace session.state.published pending) →
      .terminated ∉ session.state.published →
      Chronicled held count session
  | stopped :
      session.queue.stopped = true →
      WellPublished held count session.state.published →
      Chronicled held count session

section Chronicled

variable {held : Bool} {count : Nat} {session : Session Interpreter}

theorem Chronicled.wellPublished (chronicled : session.Chronicled held count) :
    WellPublished held count session.state.published := by
  cases chronicled with
  | working queue traced unfinished => exact traced.wellPublished (final_of_unfinished unfinished)
  | stopped _ published => exact published

theorem Chronicled.traced
    (chronicled : session.Chronicled held count) {pending : List Event}
    (queue : session.queue = workingQueue pending) :
    Traced held count session.state.target.status (trace session.state.published pending) ∧
      .terminated ∉ session.state.published := by
  cases chronicled with
  | @working others queueNow traced unfinished =>
      have same : pending = others := congrArg EventQueue.pending (queue.symm.trans queueNow)
      exact ⟨same ▸ traced, unfinished⟩
  | stopped stopped =>
      rw [queue] at stopped
      cases stopped

theorem filter_notices (debugger : Debugger) (signals : List Signal) :
    (signals.map debugger.notice).filter Notice.isLifecycle = signals.map debugger.notice := by
  rw [List.filter_eq_self]
  intro notice member
  obtain ⟨signal, _, rfl⟩ := List.mem_map.mp member
  cases signal <;> rfl

theorem filter_answers (debugger : Debugger) (target : Interpreter) (request : Request) :
    (debugger.handle target request).notices.filter Notice.isLifecycle = [] := by
  have answers := debugger.handle_answers target request
  rw [List.filter_eq_nil_iff]
  intro notice member
  rw [answers.answer notice member]
  exact Bool.false_ne_true

/-- What is chronicled stays so after every change. -/
theorem Change.chronicled
    {script : List String} {handled : Option Request} {changed : Session Interpreter}
    (change : Change session handled changed) (coherent : session.Coherent script held)
    (chronicled : session.Chronicled held script.length) :
    changed.Chronicled held script.length := by
  -- Only a move extends the trace; a delivery shifts a notice from what waits to what is published.
  cases change with
  | stays => exact chronicled
  | @submits pending request queue =>
      obtain ⟨traced, unfinished⟩ := chronicled.traced queue
      rw [← trace_submit _ _ request] at traced
      exact .working rfl traced unfinished
  | @moves pending moved signals queue move =>
      obtain ⟨traced, unfinished⟩ := chronicled.traced queue
      have later := traced.move session.state.debugger coherent.held
        (congrArg List.length coherent.script) (coherent.serving queue).attached move
      rw [← filter_notices, ← trace_notices] at later
      exact .working rfl later unfinished
  | @tells notice rest queue other =>
      obtain ⟨traced, unfinished⟩ := chronicled.traced queue
      rw [trace_notice_cons] at traced
      exact .working rfl traced (by simpa [SessionState.follow] using ⟨unfinished, other.symm⟩)
  | @ends rest queue =>
      obtain ⟨traced, unfinished⟩ := chronicled.traced queue
      rw [trace_notice_cons] at traced
      exact .stopped rfl (traced.wellPublished (final_concat unfinished))
  | @handles request rest queue kept =>
      obtain ⟨traced, unfinished⟩ := chronicled.traced queue
      rw [trace_request_cons] at traced
      have silent := filter_answers session.state.debugger session.state.target request
      rw [SessionState.handled_eq]
      refine .working rfl ?_ unfinished
      rw [trace_notices, silent, List.append_nil, Interpreter.after_status]
      exact traced
  | leaves => exact .stopped rfl chronicled.wellPublished
  | movesAlone stopped => exact .stopped stopped chronicled.wellPublished
  | closes => exact .stopped rfl chronicled.wellPublished

theorem Chronicled.acts
    {script : List String} (chronicled : session.Chronicled held script.length)
    (coherent : session.Coherent script held) (actions : List Action) :
    (session.acts actions).Chronicled held script.length := by
  induction actions generalizing session with
  | nil => exact chronicled
  | cons action later inductionHypothesis =>
      have change := coherent.change action
      exact inductionHypothesis (change.chronicled coherent chronicled) (change.coherent coherent)

end Chronicled

end Session

end ScriptDebugger
