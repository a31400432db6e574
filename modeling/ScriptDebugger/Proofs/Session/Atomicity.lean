import ScriptDebugger.Proofs.Debugger.Failures
import ScriptDebugger.Proofs.Session.Finality

/-!
# A failed request changes nothing

When a request fails, the debugger, the view and the target are as before, but for the failure that was
used up.  More than that: the session goes on as if the request had never been asked for and the failure
never been waiting.  Two runs are compared for this, one with the request and one without, from the
beginning of the session up to the turn of the request and from there on.  There is one exception: a
stand-in that is told to fail while it sets a variable has set it when the request fails.
-/

namespace ScriptDebugger

/-! ## Happenings on other queues and targets -/

namespace Session

variable {τ ε : Type} [Target τ ε]

/-- Whether the target comes into a state by itself or by others. -/
def Happening.isChange : Happening τ → Bool
  | .become _ => true
  | .submit _ | .addBreakpoint _ | .removeBreakpoint _ | .evaluate _ | .receiveAll | .waitFor _ _
  | .shutdown | .signal _ | .deliver => false

/-- Whether the worker takes a turn. -/
def Happening.isTurn : Happening τ → Bool
  | .deliver => true
  | .submit _ | .addBreakpoint _ | .removeBreakpoint _ | .evaluate _ | .receiveAll | .waitFor _ _
  | .shutdown | .signal _ | .become _ => false

/-- The session with another queue and another target. -/
def exchange (session : Session τ) (queue : EventQueue Role) (target : τ) : Session τ :=
  { session with queue := queue, state := { session.state with target := target } }

/-- A call and a signal do the same whatever waits in the queue and whatever the target is. -/
theorem happen_exchange
    (session : Session τ) (queue : EventQueue Role) (target : τ) {happening : Happening τ}
    (called : happening ≠ .deliver) (kept : happening ≠ .shutdown) :
    (session.exchange queue target).happen happening =
      (session.happen happening).exchange
        ((session.posts? happening).elim queue queue.post) (happening.target target) := by
  cases happening with
  | deliver => exact absurd rfl called
  | shutdown => exact absurd rfl kept
  | waitFor isMatch milliseconds =>
      have sameUnread : (session.exchange queue target).unread = session.unread := rfl
      simp only [happen, waitFor, sameUnread]
      split <;> rfl
  | submit | addBreakpoint | removeBreakpoint | evaluate | receiveAll | signal | become => rfl

theorem kept_of_live
    {session : Session τ} {happening : Happening τ}
    (live : (session.happen happening).queue.stopped = false) :
    happening ≠ .shutdown := by
  rintro rfl
  rw [happen, session.shutdown_state.1] at live
  cases live

section Turns

variable {session : Session τ} {rest : List Event}

theorem deliver_notice
    {notice : Notice} (queue : session.queue = workingQueue (.notice notice :: rest))
    (unfinished : notice ≠ .terminated) :
    session.happen .deliver =
      { session with queue := workingQueue rest, state := session.state.follow (.notice notice) } := by
  rw [happen, queue, turn_notice rest _ unfinished]

theorem deliver_request
    {request : Request} (queue : session.queue = workingQueue (.request request :: rest))
    (kept : request ≠ .disconnect) :
    session.happen .deliver =
      { session with
        queue := workingQueue (rest ++
          (session.state.debugger.handle session.state.target request).notices.map .notice)
        state := session.state.handled request } := by
  rw [happen, queue, turn_request, if_neg kept]

theorem unfinished_of_live
    {event : Event} (queue : session.queue = workingQueue (event :: rest))
    (live : (session.happen .deliver).queue.stopped = false) :
    event ≠ .notice .terminated ∧ event ≠ .request .disconnect := by
  obtain ⟨_, _, queueNow⟩ := happen_deliver queue
  split at queueNow
  case isTrue =>
    rw [live] at queueNow
    cases queueNow
  case isFalse other => exact not_or.mp other

end Turns

/-! ## A run without the failure that waits -/

/-- The session with a failure that waits taken back. -/
def calm (calmed : τ → τ) (session : Session τ) : Session τ :=
  session.exchange session.queue (calmed session.state.target)

section Withdrawing

variable {calmed : τ → τ} {session : Session τ}

theorem happen_calm
    {happening : Happening τ} (called : happening ≠ .deliver) (kept : happening ≠ .shutdown)
    (unchanged : happening.isChange = false) :
    (session.calm calmed).happen happening = (session.happen happening).calm calmed ∧
      (session.happen happening).state.target = session.state.target := by
  have other (target : τ) : happening.target target = target := by
    cases happening with
    | become => cases unchanged
    | _ => rfl
  obtain ⟨queue, state, _⟩ := session.happen_call called kept
  have target : (session.happen happening).state.target = session.state.target := by
    rw [state]
    exact other _
  refine ⟨?_, target⟩
  rw [calm, happen_exchange _ _ _ called kept, other, calm, queue, target]

theorem deliver_calm
    (recovers : Recovers calmed) (orderly : session.Orderly)
    (live : (session.happen .deliver).queue.stopped = false)
    (waiting : calmed (session.happen .deliver).state.target ≠
      (session.happen .deliver).state.target) :
    (session.calm calmed).happen .deliver = (session.happen .deliver).calm calmed ∧
      (session.happen .deliver).state.target = session.state.target := by
  obtain ⟨pending, queue⟩ := orderly.queue_of_live (live_of_happenAll [.deliver] live)
  have queueCalm : (session.calm calmed).queue = workingQueue pending := queue
  cases pending with
  | nil =>
      rw [(happen_deliver_idle queue).1, (happen_deliver_idle queueCalm).1]
      exact ⟨rfl, rfl⟩
  | cons event rest =>
      obtain ⟨unfinished, staying⟩ := unfinished_of_live queue live
      cases event with
      | notice notice =>
          have other : notice ≠ .terminated := fun same => unfinished (same ▸ rfl)
          rw [deliver_notice queue other, deliver_notice queueCalm other]
          exact ⟨rfl, rfl⟩
      | request request =>
          have kept : request ≠ .disconnect := fun same => staying (same ▸ rfl)
          rw [deliver_request queue kept] at waiting ⊢
          rw [deliver_request queueCalm kept]
          -- A request for a breakpoint is the only one that is handled without the target.
          by_cases asks : ∀ marker change, request ≠ .breakpoint marker change
          · exact absurd (recovers.handle_calm _ _ asks) waiting
          · have marks : ∃ marker change, request = .breakpoint marker change := by simpa using asks
            obtain ⟨marker, change, rfl⟩ := marks
            exact ⟨rfl, rfl⟩

theorem happen_calm_of_waiting
    (recovers : Recovers calmed) (orderly : session.Orderly) {happening : Happening τ}
    (live : (session.happen happening).queue.stopped = false)
    (waiting : calmed (session.happen happening).state.target ≠
      (session.happen happening).state.target)
    (unchanged : happening.isChange = false) :
    (session.calm calmed).happen happening = (session.happen happening).calm calmed ∧
      calmed session.state.target ≠ session.state.target := by
  have same : (session.calm calmed).happen happening = (session.happen happening).calm calmed ∧
      (session.happen happening).state.target = session.state.target := by
    by_cases turns : happening = .deliver
    · subst turns
      exact deliver_calm recovers orderly live waiting
    · exact happen_calm turns (kept_of_live live) unchanged
  rw [same.2] at waiting
  exact ⟨same.1, waiting⟩

/-- A failure that waits after a run was waiting since the target last came into a state, or from the
beginning.  Without it the run is the same. -/
theorem happenAll_calm
    (recovers : Recovers calmed) (orderly : session.Orderly) (happenings : List (Happening τ))
    (live : (session.happenAll happenings).queue.stopped = false)
    (waiting : calmed (session.happenAll happenings).state.target ≠
      (session.happenAll happenings).state.target) :
    (∃ before target after,
      happenings = before ++ .become target :: after ∧
        (∀ happening ∈ after, happening.isChange = false) ∧
        session.happenAll (before ++ .become (calmed target) :: after) =
          (session.happenAll happenings).calm calmed) ∨
      ((∀ happening ∈ happenings, happening.isChange = false) ∧
        calmed session.state.target ≠ session.state.target ∧
        (session.calm calmed).happenAll happenings =
          (session.happenAll happenings).calm calmed) := by
  induction happenings generalizing session with
  | nil => exact .inr ⟨by simp, waiting, rfl⟩
  | cons happening later inductionHypothesis =>
      have liveNow : (session.happen happening).queue.stopped = false :=
        live_of_happenAll later live
      -- What happens later comes first: only if none of it changes the target does this matter.
      rcases inductionHypothesis (orderly.happen happening) live waiting with
        ⟨before, target, after, rfl, own, same⟩ | ⟨own, waitingNow, same⟩
      · exact .inl ⟨happening :: before, target, after, rfl, own, same⟩
      · by_cases changes : happening.isChange = true
        · cases happening with
          | become target => exact .inl ⟨[], target, later, rfl, own, same⟩
          | _ => cases changes
        · have unchanged : happening.isChange = false := by simpa using changes
          obtain ⟨step, waitingBefore⟩ :=
            happen_calm_of_waiting recovers orderly liveNow waitingNow unchanged
          refine .inr ⟨?_, waitingBefore, ?_⟩
          · simpa [unchanged] using own
          · rw [← step] at same
            exact same

theorem addBreakpoints_calm (lines : List Nat) (session : Session τ) :
    lines.foldl addBreakpoint (session.calm calmed) =
      (lines.foldl addBreakpoint session).calm calmed := by
  induction lines generalizing session with
  | nil => rfl
  | cons line later inductionHypothesis => exact inductionHypothesis (session.addBreakpoint line)

theorem create_calm (recovers : Recovers calmed) (target : τ) (breakpoints : List Nat) :
    create (calmed target) breakpoints = (create target breakpoints).calm calmed := by
  -- Besides the queue and the state, which are known, nothing depends on the target.
  let fresh (first : τ) : Session τ := { queue := workingQueue [], state := { target := first } }
  have shape (first : τ) : create first breakpoints =
      { breakpoints.foldl addBreakpoint (fresh first) with
        queue := (create first breakpoints).queue
        state := (create first breakpoints).state } := rfl
  have asked : breakpoints.foldl addBreakpoint (fresh (calmed target)) =
      (breakpoints.foldl addBreakpoint (fresh target)).calm calmed :=
    addBreakpoints_calm breakpoints (fresh target)
  obtain ⟨queue, state⟩ := create_eq target breakpoints
  obtain ⟨queueCalm, stateCalm⟩ := create_eq (calmed target) breakpoints
  rw [shape (calmed target), queueCalm, stateCalm, asked, shape target, queue, state,
    recovers.attach]
  rfl

end Withdrawing

/-! ## A run without a request -/

/-- The session after a call that asks for nothing, but takes the id of an evaluation. -/
def skip (session : Session τ) : Happening τ → Session τ
  | .evaluate expression => (session.newEvaluation expression).2
  | .submit _ | .addBreakpoint _ | .removeBreakpoint _ | .receiveAll | .waitFor _ _ | .shutdown
  | .signal _ | .become _ | .deliver => session

theorem skip_frame (session : Session τ) (asking : Happening τ) :
    (session.skip asking).queue = session.queue ∧ (session.skip asking).state = session.state := by
  cases asking <;> exact ⟨rfl, rfl⟩

theorem skip_calm (calmed : τ → τ) (session : Session τ) (asking : Happening τ) :
    (session.calm calmed).skip asking = (session.skip asking).calm calmed := by
  cases asking <;> rfl

theorem Orderly.skip
    {session : Session τ} (orderly : session.Orderly) (asking : Happening τ) :
    (session.skip asking).Orderly := by
  obtain ⟨queue, state⟩ := session.skip_frame asking
  cases orderly with
  | working working going => exact .working (queue.trans working) (by rwa [state])
  | stopped stopped => exact .stopped (by rwa [queue])

/-- The turns of the worker among happenings. -/
def turnCount (happenings : List (Happening τ)) : Nat :=
  happenings.countP Happening.isTurn

/-- `Lacks session other front request back` means that the sessions differ in a request only, which
waits in the first one between `front` and `back`. -/
structure Lacks (session other : Session τ) (front : List Event) (request : Request)
    (back : List Event) : Prop where
  queue : session.queue = workingQueue (front ++ .request request :: back)
  same : other = session.exchange (workingQueue (front ++ back)) session.state.target

section Lockstep

variable {session other : Session τ} {front back : List Event} {request : Request}

/-- What waits before the request is delivered in both sessions alike. -/
theorem Lacks.deliver
    {event : Event} (lacks : Lacks session other (event :: front) request back)
    (live : (session.happen .deliver).queue.stopped = false) :
    ∃ answers,
      Lacks (session.happen .deliver) (other.happen .deliver) front request (back ++ answers) := by
  obtain ⟨queue, same⟩ := lacks
  have otherQueue : other.queue = workingQueue (event :: (front ++ back)) := by
    rw [same]
    rfl
  obtain ⟨unfinished, staying⟩ := unfinished_of_live queue live
  cases event with
  | notice notice =>
      have goesOn : notice ≠ .terminated := fun equal => unfinished (equal ▸ rfl)
      rw [deliver_notice queue goesOn, deliver_notice otherQueue goesOn, same]
      exact ⟨[], by rw [List.append_nil]; rfl, by rw [List.append_nil]; rfl⟩
  | request first =>
      have kept : first ≠ .disconnect := fun equal => staying (equal ▸ rfl)
      rw [deliver_request queue kept, deliver_request otherQueue kept, same]
      let answers : List Event :=
        (session.state.debugger.handle session.state.target first).notices.map .notice
      refine ⟨answers, ?_, ?_⟩
      · exact congrArg workingQueue (List.append_assoc front (.request request :: back) answers)
      · rw [← List.append_assoc]
        rfl

theorem Lacks.call
    (lacks : Lacks session other front request back) {happening : Happening τ}
    (called : happening ≠ .deliver) (kept : happening ≠ .shutdown) :
    ∃ posted,
      Lacks (session.happen happening) (other.happen happening) front request (back ++ posted) := by
  obtain ⟨queue, rfl⟩ := lacks
  refine ⟨(session.posts? happening).toList, ?_, ?_⟩
  · rw [happen_call_working queue called kept, List.append_assoc, List.cons_append]
  · have target : (session.happen happening).state.target =
        happening.target session.state.target := by
      rw [(session.happen_call called kept).2.1]
    rw [happen_exchange _ _ _ called kept, target, ← List.append_assoc]
    cases session.posts? happening with
    | none => rw [Option.toList_none, List.append_nil, Option.elim_none]
    | some event => rfl

/-- The two sessions go on in step until the request has its turn. -/
theorem Lacks.happenAll
    (lacks : Lacks session other front request back) (happenings : List (Happening τ))
    (live : (session.happenAll happenings).queue.stopped = false)
    (few : turnCount happenings ≤ front.length) :
    ∃ rest behind,
      rest.length + turnCount happenings = front.length ∧
        Lacks (session.happenAll happenings) (other.happenAll happenings) rest request behind := by
  induction happenings generalizing session other front back with
  | nil => exact ⟨front, back, rfl, lacks⟩
  | cons happening later inductionHypothesis =>
      have liveNow : (session.happen happening).queue.stopped = false :=
        live_of_happenAll later live
      by_cases turns : happening = .deliver
      · subst turns
        have counted : turnCount (.deliver :: later) = turnCount later + 1 :=
          List.countP_cons_of_pos rfl
        rw [counted] at few ⊢
        -- There are not more turns than events in front, so it is not yet that of the request.
        cases front with
        | nil => simp at few
        | cons event waiting =>
            obtain ⟨answers, lacksNow⟩ := lacks.deliver liveNow
            obtain ⟨rest, behind, total, lacksThen⟩ :=
              inductionHypothesis lacksNow live (Nat.le_of_succ_le_succ few)
            refine ⟨rest, behind, ?_, lacksThen⟩
            rw [List.length_cons, ← total, Nat.add_assoc]
      · have counted : turnCount (happening :: later) = turnCount later := by
          apply List.countP_cons_of_neg
          cases happening with
          | deliver => exact absurd rfl turns
          | _ => exact Bool.false_ne_true
        rw [counted] at few ⊢
        obtain ⟨posted, lacksNow⟩ := lacks.call turns (kept_of_live liveNow)
        exact inductionHypothesis lacksNow live few

/-- A call that asks for a request other than for a breakpoint does nothing else, except that an evaluation
takes an id. -/
theorem lacks_skip
    {pending : List Event} (queue : session.queue = workingQueue pending) {asking : Happening τ}
    (asks : session.posts? asking = some (.request request))
    (other : ∀ marker change, request ≠ .breakpoint marker change) :
    Lacks (session.happen asking) (session.skip asking) pending request [] := by
  have restored (changed : Session τ) (same : changed.queue = session.queue) :
      changed = changed.exchange (workingQueue (pending ++ [])) changed.state.target := by
    rw [List.append_nil, ← queue, ← same]
    rfl
  cases asking with
  | submit submitted =>
      cases asks
      exact ⟨by rw [happen, submit, queue]; rfl, restored session rfl⟩
  | evaluate expression =>
      cases asks
      refine ⟨?_, restored (session.newEvaluation expression).2 rfl⟩
      change session.queue.post _ = _
      rw [queue]
      rfl
  | addBreakpoint line =>
      cases asks
      exact absurd rfl (other _ _)
  | removeBreakpoint line =>
      cases asks
      exact absurd rfl (other _ _)
  | _ => cases asks

end Lockstep

/-! ## Attempts -/

/-- How a request comes to its turn: what the session begins with, what happens before the request is
asked for, the call that asks for it, and what happens until the worker takes it up. -/
structure Attempt (τ : Type) where
  target : τ
  breakpoints : List Nat
  earlier : List (Happening τ)
  asking : Happening τ
  between : List (Happening τ)

namespace Attempt

/-- The session when the request is asked for. -/
def asked (attempt : Attempt τ) : Session τ :=
  (create attempt.target attempt.breakpoints).happenAll attempt.earlier

/-- The session when the request has its turn. -/
def reached (attempt : Attempt τ) : Session τ :=
  (attempt.asked.happen attempt.asking).happenAll attempt.between

/-- The session at the same time if the request was never asked for. -/
def without (attempt : Attempt τ) : Session τ :=
  (attempt.asked.skip attempt.asking).happenAll attempt.between

/-- The request is the one that the call has asked for, since the worker has taken a turn for each event
that waited before it; and it fails. -/
structure Fails (attempt : Attempt τ) (request : Request) (error : RequestError ε) : Prop where
  asks : attempt.asked.posts? attempt.asking = some (.request request)
  turn : turnCount attempt.between = attempt.asked.queue.pending.length
  next : attempt.reached.delivers? .deliver = some (.request request)
  failed : (attempt.reached.state.debugger.handle attempt.reached.state.target request).result =
    .error error

/-- `Withdraws calmed attempt changed` means that the attempts differ in the failure only that waited
last: it came with the last state that the target came into, or it was there from the beginning. -/
inductive Withdraws (calmed : τ → τ) (attempt : Attempt τ) : Attempt τ → Prop
  | late {before after : List (Happening τ)} {target : τ} :
      attempt.between = before ++ .become target :: after →
      (∀ happening ∈ after, happening.isChange = false) →
      Withdraws calmed attempt
        { attempt with between := before ++ .become (calmed target) :: after }
  | early {before after : List (Happening τ)} {target : τ} :
      attempt.earlier = before ++ .become target :: after →
      (∀ happening ∈ after ++ attempt.between, happening.isChange = false) →
      Withdraws calmed attempt
        { attempt with earlier := before ++ .become (calmed target) :: after }
  | initial :
      (∀ happening ∈ attempt.earlier ++ attempt.between, happening.isChange = false) →
      Withdraws calmed attempt { attempt with target := calmed attempt.target }

section Fails

variable {attempt : Attempt τ} {request : Request} {error : RequestError ε}

theorem Fails.live (fails : attempt.Fails request error) :
    attempt.reached.queue.stopped = false := by
  cases stopped : attempt.reached.queue.stopped with
  | false => rfl
  | true =>
      have next := fails.next
      rw [(happen_of_stopped stopped .deliver).2.2] at next
      cases next

theorem asked_orderly (attempt : Attempt τ) : attempt.asked.Orderly :=
  ((create_orderly attempt.target attempt.breakpoints).happenAll attempt.earlier).1

theorem Fails.other
    (fails : attempt.Fails request error) (marker : Marker) (change : BreakpointChange) :
    request ≠ .breakpoint marker change := by
  rintro rfl
  cases fails.failed

theorem Fails.lacks (fails : attempt.Fails request error) :
    ∃ behind, Lacks attempt.reached attempt.without [] request behind := by
  have live : attempt.asked.queue.stopped = false :=
    live_of_happenAll (attempt.asking :: attempt.between) fails.live
  obtain ⟨pending, queue⟩ := attempt.asked_orderly.queue_of_live live
  have turn : turnCount attempt.between = pending.length := by
    rw [fails.turn, queue]
    rfl
  obtain ⟨rest, behind, total, lacks⟩ :=
    (lacks_skip queue fails.asks fails.other).happenAll attempt.between fails.live
      (Nat.le_of_eq turn)
  have empty : rest = [] := by
    apply List.eq_nil_of_length_eq_zero
    omega
  subst empty
  exact ⟨behind, lacks⟩

variable {calmed : τ → τ}

/-- The failure leaves the session that has never been asked, with no failure waiting. -/
theorem Fails.deliver
    (fails : attempt.Fails request error) (recovers : Recovers calmed)
    (kept : request ≠ .disconnect) (whole : ¬ error.interrupts request) :
    attempt.reached.happen .deliver = attempt.without.calm calmed ∧
      attempt.without.state = attempt.reached.state := by
  obtain ⟨behind, queue, same⟩ := fails.lacks
  have response := recovers.handle_failed _ _ kept whole fails.failed
  have phase : attempt.reached.state.phase.after (.request request) =
      attempt.reached.state.phase := by
    cases request with
    | disconnect => exact absurd rfl kept
    | _ => rfl
  constructor
  · rw [deliver_request queue kept, same]
    simp only [SessionState.handled, response, phase, List.map_nil, List.append_nil]
    rfl
  · rw [same]
    rfl

theorem Fails.withdraws
    (fails : attempt.Fails request error) (recovers : Recovers calmed)
    (waiting : calmed attempt.without.state.target ≠ attempt.without.state.target) :
    ∃ changed, Withdraws calmed attempt changed ∧ changed.without = attempt.without.calm calmed := by
  have live : attempt.without.queue.stopped = false := by
    obtain ⟨behind, _, same⟩ := fails.lacks
    rw [same]
    rfl
  rcases happenAll_calm recovers (attempt.asked_orderly.skip attempt.asking) attempt.between live
    waiting with ⟨before, target, after, between, own, same⟩ | ⟨own, waitingAsked, same⟩
  · exact ⟨_, .late between own, same⟩
  · obtain ⟨queue, state⟩ := attempt.asked.skip_frame attempt.asking
    rw [state] at waitingAsked
    have liveAsked : attempt.asked.queue.stopped = false := by
      rw [← queue]
      exact live_of_happenAll attempt.between live
    -- The failure was waiting when the request was asked for, so it came with what was before.
    rw [← skip_calm] at same
    have carried (asked : Session τ) (calmAsked : asked = attempt.asked.calm calmed) :
        (asked.skip attempt.asking).happenAll attempt.between = attempt.without.calm calmed := by
      rw [calmAsked]
      exact same
    rcases happenAll_calm recovers (create_orderly attempt.target attempt.breakpoints)
      attempt.earlier liveAsked waitingAsked with
      ⟨before, target, after, earlier, ownBefore, sameAsked⟩ | ⟨ownBefore, _, sameAsked⟩
    · exact ⟨_, .early earlier (List.forall_mem_append.mpr ⟨ownBefore, own⟩), carried _ sameAsked⟩
    · rw [← create_calm recovers] at sameAsked
      exact ⟨_, .initial (List.forall_mem_append.mpr ⟨ownBefore, own⟩), carried _ sameAsked⟩

end Fails

/-- What holds when a request fails: the debugger tells nothing, and it, the view and the target are as
before; and from then on everything goes as if the request had never been asked for, nor the failure that
it used up been waiting. -/
structure Atomic (calmed : τ → τ) (attempt : Attempt τ) (request : Request)
    (error : RequestError ε) : Prop where
  response : attempt.reached.state.debugger.handle attempt.reached.state.target request =
    { debugger := attempt.reached.state.debugger
      target := calmed attempt.reached.state.target
      result := .error error }
  state : (attempt.reached.happen .deliver).state =
    { attempt.reached.state with target := calmed attempt.reached.state.target }
  queue : (attempt.reached.happen .deliver).queue =
    { attempt.reached.queue with pending := attempt.reached.queue.pending.tail }
  ready : calmed attempt.reached.state.target = attempt.reached.state.target →
    ∀ later, (attempt.reached.happen .deliver).happenAll later = attempt.without.happenAll later
  waiting : calmed attempt.reached.state.target ≠ attempt.reached.state.target →
    ∃ changed, Withdraws calmed attempt changed ∧
      ∀ later, (attempt.reached.happen .deliver).happenAll later = changed.without.happenAll later

theorem Fails.atomic
    {attempt : Attempt τ} {request : Request} {error : RequestError ε} {calmed : τ → τ}
    (fails : attempt.Fails request error) (recovers : Recovers calmed)
    (kept : request ≠ .disconnect) (whole : ¬ error.interrupts request) :
    attempt.Atomic calmed request error where
  response := recovers.handle_failed _ _ kept whole fails.failed
  state := by
    obtain ⟨delivered, state⟩ := fails.deliver recovers kept whole
    rw [delivered, ← state]
    rfl
  queue := by
    obtain ⟨behind, queue, same⟩ := fails.lacks
    rw [(fails.deliver recovers kept whole).1, same, queue]
    rfl
  ready := by
    intro ready later
    obtain ⟨delivered, state⟩ := fails.deliver recovers kept whole
    rw [← state] at ready
    rw [delivered, calm, ready]
    rfl
  waiting := by
    intro waiting
    obtain ⟨delivered, state⟩ := fails.deliver recovers kept whole
    rw [← state] at waiting
    obtain ⟨changed, withdraws, same⟩ := fails.withdraws recovers waiting
    refine ⟨changed, withdraws, fun later => ?_⟩
    rw [delivered, same]

/-- What holds when a request fails half done: the target has changed and nothing else, the debugger tells
nothing, and from then on everything goes as if the request had never been asked for and the target had
come into its new state by itself. -/
structure HalfDone (attempt : Attempt τ) (request : Request) (error : RequestError ε)
    (changed : τ) : Prop where
  response : attempt.reached.state.debugger.handle attempt.reached.state.target request =
    { debugger := attempt.reached.state.debugger, target := changed, result := .error error }
  state : (attempt.reached.happen .deliver).state =
    { attempt.reached.state with target := changed }
  queue : (attempt.reached.happen .deliver).queue =
    { attempt.reached.queue with pending := attempt.reached.queue.pending.tail }
  later : ∀ later, (attempt.reached.happen .deliver).happenAll later =
    attempt.without.happenAll (.become changed :: later)

theorem Fails.halfDone
    {attempt : Attempt τ} {name content : String} {error : RequestError ε} {changed : τ}
    (fails : attempt.Fails (.changeVariable name content) error)
    (response : attempt.reached.state.debugger.handle attempt.reached.state.target
        (.changeVariable name content) =
      { debugger := attempt.reached.state.debugger, target := changed, result := .error error }) :
    attempt.HalfDone (.changeVariable name content) error changed := by
  obtain ⟨behind, queue, same⟩ := fails.lacks
  have delivered : attempt.reached.happen .deliver =
      attempt.reached.exchange (workingQueue behind) changed := by
    rw [deliver_request queue (by simp)]
    simp only [SessionState.handled, response, List.map_nil, List.append_nil]
    rfl
  refine ⟨response, by rw [delivered]; rfl, by rw [delivered, queue]; rfl, fun later => ?_⟩
  rw [delivered, same]
  rfl

end Attempt

/-- A script tells its variables whenever it is asked, so no request to it fails half done. -/
theorem Attempt.Fails.not_interrupts
    {attempt : Attempt Interpreter} {request : Request} {error : RequestError InterpreterError}
    (fails : attempt.Fails request error) :
    ¬ error.interrupts request := by
  intro half
  cases request with
  | changeVariable name content =>
      obtain ⟨changed, _, unable, _⟩ :=
        Interpreter.recovers.handle_interrupted _ _ half fails.failed
      cases unable
  | _ => exact half

/-- A request to a stand-in fails half done if the stand-in is told to fail while it sets the variable. -/
theorem Attempt.Fails.standIn_halfDone
    {attempt : Attempt StandIn} {name content : String} {error : RequestError StandInError}
    (fails : attempt.Fails (.changeVariable name content) error)
    (half : error.interrupts (.changeVariable name content)) :
    attempt.reached.state.target.failNext = false ∧
      attempt.reached.state.target.failsAmid content = true ∧
      attempt.HalfDone (.changeVariable name content) error
        { attempt.reached.state.target with
          bindings := attempt.reached.state.target.bindings.insert name
            (attempt.reached.state.target.coercion content) } := by
  obtain ⟨changed, performed, unable, response⟩ :=
    StandIn.recovers.handle_interrupted _ _ half fails.failed
  cases ready : attempt.reached.state.target.failNext with
  | true => simp [Target.setVariable, StandIn.setVariable, StandIn.guarded, ready] at performed
  | false =>
      have set : changed =
          { attempt.reached.state.target with
            bindings := attempt.reached.state.target.bindings.insert name
              (attempt.reached.state.target.coercion content)
            failNext := attempt.reached.state.target.failsAmid content } := by
        simpa [Target.setVariable, StandIn.setVariable, StandIn.guarded, ready] using
          performed.symm
      refine ⟨rfl, ?_, fails.halfDone ?_⟩
      · cases amid : attempt.reached.state.target.failsAmid content with
        | true => rfl
        | false => simp [Target.bindings, StandIn.guarded, set, amid] at unable
      · rw [response, set, StandIn.calmed, ← ready]

/-- A failed request changes nothing, but for the failure that is used up: over a script always, and over
a stand-in, which may be told at any point to fail, unless it is told so while it sets a variable.  Then
the variable is set and nothing else has changed. -/
theorem failed_requests_atomic :
    (∀ (attempt : Attempt Interpreter) (request : Request)
        (error : RequestError InterpreterError),
      request ≠ .disconnect → attempt.Fails request error → attempt.Atomic id request error) ∧
      (∀ (attempt : Attempt StandIn) (request : Request) (error : RequestError StandInError),
        request ≠ .disconnect → attempt.Fails request error → ¬ error.interrupts request →
          attempt.Atomic StandIn.calmed request error) ∧
      ∀ (attempt : Attempt StandIn) (name content : String) (error : RequestError StandInError),
        attempt.Fails (.changeVariable name content) error →
        error.interrupts (.changeVariable name content) →
          attempt.reached.state.target.failNext = false ∧
            attempt.reached.state.target.failsAmid content = true ∧
            attempt.HalfDone (.changeVariable name content) error
              { attempt.reached.state.target with
                bindings := attempt.reached.state.target.bindings.insert name
                  (attempt.reached.state.target.coercion content) } :=
  ⟨fun _ _ _ kept fails => fails.atomic Interpreter.recovers kept fails.not_interrupts,
    fun _ _ _ kept fails whole => fails.atomic StandIn.recovers kept whole,
    fun _ _ _ _ fails half => fails.standIn_halfDone half⟩

/-- An evaluation that a stand-in was told to fail, while it had another request to answer, and one that a
script cannot carry out. -/
theorem failed_requests_atomic_evaluations :
    (∃ attempt : Attempt StandIn,
      attempt.Fails (.evaluate ⟨1, "x"⟩) ⟨.evaluating "x", .injected .evaluate⟩ ∧
        attempt.reached.state.target.failNext = true ∧
        ∃ changed, attempt.Withdraws StandIn.calmed changed ∧
          (attempt.reached.happen .deliver).happenAll [.deliver] =
            changed.without.happenAll [.deliver]) ∧
      ∃ attempt : Attempt Interpreter,
        attempt.Fails (.changeVariable "1" "2") ⟨.changingVariable "1", .invalidVariableName "1"⟩ ∧
          (attempt.reached.happen .deliver).happenAll [.submit .fetchVariables, .deliver] =
            attempt.without.happenAll [.submit .fetchVariables, .deliver] := by
  constructor
  · let attempt : Attempt StandIn :=
      { target := {}
        breakpoints := [2]
        earlier := [.submit .fetchVariables]
        asking := .evaluate "x"
        between := [.deliver, .become { attached := true, failNext := true }] }
    have fails : attempt.Fails (.evaluate ⟨1, "x"⟩) ⟨.evaluating "x", .injected .evaluate⟩ :=
      ⟨rfl, by decide +kernel, by decide +kernel, rfl⟩
    have waiting : attempt.reached.state.target.failNext = true := by decide +kernel
    have atomic := failed_requests_atomic.2.1 attempt _ _ (by simp) fails not_false
    obtain ⟨changed, withdraws, same⟩ := atomic.waiting (by
      intro calm
      cases (congrArg StandIn.failNext calm).trans waiting)
    exact ⟨attempt, fails, waiting, changed, withdraws, same [.deliver]⟩
  · let attempt : Attempt Interpreter :=
      { target := .ofSource "a=1" false
        breakpoints := []
        earlier := []
        asking := .submit (.changeVariable "1" "2")
        between := [.receiveAll] }
    have fails : attempt.Fails (.changeVariable "1" "2")
        ⟨.changingVariable "1", .invalidVariableName "1"⟩ :=
      ⟨rfl, by decide +kernel, by decide +kernel, rfl⟩
    have atomic := failed_requests_atomic.1 attempt _ _ (by simp) fails
    exact ⟨attempt, fails, atomic.ready rfl [.submit .fetchVariables, .deliver]⟩

/-- A stand-in that is told to fail while a variable is set has set it when the request fails; and a
request that fails uses up a failure however often the stand-in was told to fail. -/
theorem failure_amid_change :
    (∃ attempt : Attempt StandIn,
      attempt.Fails (.changeVariable "x" "2") ⟨.fetchingVariables, .injected .bindings⟩ ∧
        attempt.reached.state.target.bindings.get? "x" = some "1" ∧
        (attempt.reached.happen .deliver).state.target.bindings.get? "x" = some "2") ∧
      ∃ failing : StandIn,
        ((create ({} : StandIn) []).happenAll
          [.become failing, .become failing, .submit (.changeVariable "x" "2"), .deliver,
            .submit .fetchVariables, .deliver, .deliver]).state.published ≠
        ((create ({} : StandIn) []).happenAll
          [.become failing, .submit .fetchVariables, .deliver, .deliver]).state.published := by
  constructor
  · let attempt : Attempt StandIn :=
      { target := { bindings := Variables.empty.insert "x" "1", failsAmid := fun _ => true }
        breakpoints := []
        earlier := []
        asking := .submit (.changeVariable "x" "2")
        between := [] }
    have fails : attempt.Fails (.changeVariable "x" "2")
        ⟨.fetchingVariables, .injected .bindings⟩ :=
      ⟨rfl, by decide +kernel, by decide +kernel, rfl⟩
    exact ⟨attempt, fails, by decide +kernel, by decide +kernel⟩
  · exact ⟨{ attached := true, failNext := true }, by decide +kernel⟩

end Session

end ScriptDebugger
