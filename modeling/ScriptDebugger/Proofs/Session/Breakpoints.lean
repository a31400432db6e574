import ScriptDebugger.Proofs.Session.Finality

/-!
# The two sets of breakpoints

A session keeps the breakpoints asked for, and its debugger keeps those in place.  The first set is
changed at once, the second by a request that waits in the queue and names its line by a marker, which
stands for the lines from 1 to `2 ^ 63 - 1` only.  Seen through all requests that still wait, the
breakpoints of the debugger are at any time those of the session that a marker can stand for.  Requests
for breakpoints that are submitted directly pass the session by, so this holds of the lines that no such
request names.
-/

namespace ScriptDebugger

/-- What an event does to the breakpoint of a line. -/
def Event.change? (line : Nat) : Event → Option BreakpointChange
  | .request asked => asked.change? line
  | .notice _ => none

theorem Marker.line?_atLine (line other : Nat) :
    (Marker.atLine line).line? = some other ↔ other = line ∧ 1 ≤ line ∧ line < 2 ^ 63 := by
  rw [line?_eq_some, lookup_atLine, Option.some.injEq]
  split <;> omega

theorem change?_atLine (line other : Nat) (change : BreakpointChange) :
    (Request.breakpoint (Marker.atLine line) change).change? other =
      if other = line ∧ 1 ≤ line ∧ line < 2 ^ 63 then some change else none := by
  simp only [Request.change?_breakpoint, Marker.line?_atLine]

theorem filterMap_change?_notices (line : Nat) (notices : List Notice) :
    (notices.map Event.notice).filterMap (Event.change? line) = [] := by
  simp [Event.change?]

/-- Whether a line will have a breakpoint when all that waits is delivered. -/
def Debugger.Expects (debugger : Debugger) (pending : List Event) (line : Nat) : Prop :=
  (pending.filterMap (Event.change? line)).getLast?.elim (line ∈ debugger.breakpoints) (· = .added)

namespace Session

section Breakpoints

variable {τ ε : Type} [Target τ ε]

/-- Whether a request for the breakpoint of a line is submitted directly. -/
def Happening.Names (line : Nat) : Happening τ → Prop
  | .submit request => ∃ change, request.change? line = some change
  | .addBreakpoint _ | .removeBreakpoint _ | .evaluate _ | .receiveAll | .waitFor _ _ | .shutdown
  | .signal _ | .become _ | .deliver => False

theorem expects_posted
    (debugger : Debugger) (pending : List Event) (posted : Option Event) (line : Nat) :
    debugger.Expects (pending ++ posted.toList) line ↔
      (posted.bind (Event.change? line)).elim (debugger.Expects pending line) (· = .added) := by
  cases posted with
  | none => rw [Option.toList_none, List.append_nil, Option.bind_none, Option.elim_none]
  | some event =>
      unfold Debugger.Expects
      rw [Option.toList_some, Option.bind_some, List.filterMap_append, List.getLast?_append]
      cases changed : event.change? line with
      | none => simp [changed]
      | some change => simp [changed]

/-- What is expected stays the same when the next event is delivered. -/
theorem expects_deliver
    {session : Session τ} {event : Event} {rest : List Event}
    (queue : session.queue = workingQueue (event :: rest)) (answers : List Notice) (line : Nat) :
    (session.happen .deliver).state.debugger.Expects (rest ++ answers.map .notice) line ↔
      session.state.debugger.Expects (event :: rest) line := by
  have served : line ∈ (session.happen .deliver).state.debugger.breakpoints ↔
      (event.change? line).elim (line ∈ session.state.debugger.breakpoints) (· = .added) := by
    rw [happen, queue]
    cases event with
    | notice notice =>
        by_cases final : notice = .terminated
        · subst final
          exact Iff.rfl
        · rw [turn_notice rest _ final]
          exact Iff.rfl
    | request request =>
        rw [turn_request]
        exact session.state.debugger.mem_breakpoints_handle session.state.target request line
  unfold Debugger.Expects
  rw [List.filterMap_append, filterMap_change?_notices, List.append_nil, served]
  cases changed : event.change? line with
  | none => rw [List.filterMap_cons_none changed, Option.elim_none]
  | some change =>
      rw [List.filterMap_cons_some changed, List.getLast?_cons, Option.elim_some]
      cases (rest.filterMap (Event.change? line)).getLast? <;> rfl

/-- A call changes what the session was asked for as the request that it posts will change the
debugger, as far as a marker can stand for the line. -/
theorem mem_requested
    (session : Session τ) {happening : Happening τ} {line : Nat} (unnamed : ¬ happening.Names line) :
    line ∈ happening.requested session.requested ∧ 1 ≤ line ∧ line < 2 ^ 63 ↔
      ((session.posts? happening).bind (Event.change? line)).elim
        (line ∈ session.requested ∧ 1 ≤ line ∧ line < 2 ^ 63) (· = .added) := by
  cases happening with
  | addBreakpoint place =>
      simp only [Happening.requested, posts?, Option.bind_some, Event.change?, change?_atLine,
        LineSet.mem_insert]
      by_cases here : line = place
      · subst here
        split <;> simp_all
      · simp [here]
  | removeBreakpoint place =>
      simp only [Happening.requested, posts?, Option.bind_some, Event.change?, change?_atLine,
        LineSet.mem_erase]
      by_cases here : line = place
      · subst here
        split <;> simp_all
      · simp [here]
  | submit request =>
      have unchanged : request.change? line = none :=
        Option.eq_none_iff_forall_ne_some.mpr fun change changes => unnamed ⟨change, changes⟩
      simp only [posts?, Option.bind_some, Event.change?, unchanged]
      exact Iff.rfl
  | evaluate | signal | receiveAll | waitFor | shutdown | become | deliver => exact Iff.rfl

/-- The session and its debugger agree on a line: while the queue is at work, the debugger will have a
breakpoint there exactly if the session was asked for one and a marker can stand for the line. -/
inductive Agrees (line : Nat) (session : Session τ) : Prop
  | working {pending : List Event} :
      session.queue = workingQueue pending →
      (session.state.debugger.Expects pending line ↔
        line ∈ session.requested ∧ 1 ≤ line ∧ line < 2 ^ 63) →
      Agrees line session
  | stopped :
      session.queue.stopped = true →
      Agrees line session

/-- Calls, signals and the worker keep the agreement on a line that no direct request names. -/
theorem Agrees.happen
    {line : Nat} {session : Session τ} (agrees : session.Agrees line) {happening : Happening τ}
    (unnamed : ¬ happening.Names line) :
    (session.happen happening).Agrees line := by
  cases agrees with
  | stopped stopped => exact .stopped (happen_of_stopped stopped happening).1
  | @working pending queue agreed =>
      by_cases turns : happening = .deliver
      · subst turns
        cases pending with
        | nil =>
            rw [(happen_deliver_idle queue).1]
            exact .working queue agreed
        | cons event rest =>
            have next := (happen_deliver queue).2.2
            split at next
            case isTrue => exact .stopped next
            case isFalse =>
              obtain ⟨answers, queueNow⟩ := next
              exact .working queueNow ((expects_deliver queue answers line).trans agreed)
      · by_cases ends : happening = .shutdown
        · subst ends
          exact .stopped session.shutdown_state.1
        · refine .working (happen_call_working queue turns ends) ?_
          obtain ⟨_, state, requested⟩ := session.happen_call turns ends
          rw [state, requested]
          rw [expects_posted, session.mem_requested unnamed]
          cases (session.posts? happening).bind (Event.change? line) with
          | none => exact agreed
          | some change => exact Iff.rfl

theorem Agrees.happenAll
    {line : Nat} {session : Session τ} (agrees : session.Agrees line)
    {happenings : List (Happening τ)}
    (unnamed : ∀ happening ∈ happenings, ¬ happening.Names line) :
    (session.happenAll happenings).Agrees line := by
  induction happenings generalizing session with
  | nil => exact agrees
  | cons happening later inductionHypothesis =>
      have parts := List.forall_mem_cons.mp unnamed
      exact inductionHypothesis (agrees.happen parts.1) parts.2

theorem create_agrees (target : τ) (breakpoints : List Nat) (line : Nat) :
    (create target breakpoints).Agrees line := by
  obtain ⟨turns, attached, created⟩ := create_eq_happenAll target breakpoints
  rw [created]
  have fresh : ({ queue := workingQueue [], state := { target := target } } : Session τ).Agrees
      line :=
    .working rfl ⟨fun expected => absurd expected (LineSet.not_mem_empty line),
      fun asked => absurd asked.1 (LineSet.not_mem_empty line)⟩
  apply fresh.happenAll
  intro happening member
  rcases List.mem_append.mp member with asked | later
  · obtain ⟨place, _, rfl⟩ := List.mem_map.mp asked
    exact id
  · rcases List.mem_append.mp later with turn | last
    · rw [List.eq_of_mem_replicate turn]
      exact id
    · rw [List.mem_singleton.mp last]
      exact id

/-- In every session at work in which nothing waits, whatever happened to it, both sets of breakpoints
are strictly ascending, and they agree on each line that no directly submitted request names: it has a
breakpoint in the debugger exactly if the session was asked for it and it lies between 1 and
`2 ^ 63 - 1`.  Without such requests the breakpoints of the debugger are those of the session in this
range, and the two are equal exactly if no line of the session is outside of it. -/
theorem breakpoint_sets_agree
    (target : τ) (breakpoints : List Nat) (happenings : List (Happening τ)) {session : Session τ}
    (reached : (create target breakpoints).happenAll happenings = session)
    (settled : session.queue.pending = []) (live : session.queue.stopped = false) :
    session.state.debugger.breakpoints.lines.Pairwise (· < ·) ∧
      session.requested.lines.Pairwise (· < ·) ∧
      (∀ line,
        (∀ happening ∈ happenings, ¬ happening.Names line) →
        (line ∈ session.state.debugger.breakpoints ↔
          line ∈ session.requested ∧ 1 ≤ line ∧ line < 2 ^ 63)) ∧
      ((∀ line, ∀ happening ∈ happenings, ¬ happening.Names line) →
        session.state.debugger.breakpoints.lines =
            session.requested.lines.filter (fun line => 1 ≤ line ∧ line < 2 ^ 63) ∧
          (session.state.debugger.breakpoints.lines = session.requested.lines ↔
            0 ∉ session.requested ∧ ∀ line ∈ session.requested, line < 2 ^ 63)) := by
  have agreed (line : Nat) (unnamed : ∀ happening ∈ happenings, ¬ happening.Names line) :
      line ∈ session.state.debugger.breakpoints ↔
        line ∈ session.requested ∧ 1 ≤ line ∧ line < 2 ^ 63 := by
    have agrees := (create_agrees target breakpoints line).happenAll unnamed
    rw [reached] at agrees
    cases agrees with
    | stopped stopped =>
        rw [live] at stopped
        cases stopped
    | @working pending queue agreed =>
        have none : pending = [] := by
          rw [← settled, queue]
          rfl
        rw [none] at agreed
        exact agreed
  refine ⟨session.state.debugger.breakpoints.ascending, session.requested.ascending, agreed, ?_⟩
  intro unnamed
  have within : session.state.debugger.breakpoints.lines =
      session.requested.lines.filter (fun line => 1 ≤ line ∧ line < 2 ^ 63) := by
    refine session.state.debugger.breakpoints.ascending.eq_of_mem_iff
      (session.requested.ascending.filter _) fun line => ?_
    rw [List.mem_filter, decide_eq_true_iff]
    exact agreed line (unnamed line)
  refine ⟨within, ?_⟩
  rw [within, List.filter_eq_self]
  constructor
  · intro inside
    have bounds (line : Nat) (member : line ∈ session.requested) : 1 ≤ line ∧ line < 2 ^ 63 :=
      of_decide_eq_true (inside line member)
    exact ⟨fun zero => Nat.not_succ_le_zero 0 (bounds 0 zero).1,
      fun line member => (bounds line member).2⟩
  · rintro ⟨positive, bounded⟩ line member
    have nonzero : line ≠ 0 := fun zero => positive (zero ▸ member)
    exact decide_eq_true ⟨Nat.pos_of_ne_zero nonzero, bounded line member⟩

end Breakpoints

theorem breakpoint_sets_agree_beyond_markers :
    ∃ session : Session StandIn,
      (create ({} : StandIn) [2 ^ 63, 3, 0, 3]).happenAll
          [.addBreakpoint 7, .removeBreakpoint 0, .submit (.resume .stepOver), .deliver, .deliver,
            .deliver, .removeBreakpoint 3, .deliver] = session ∧
        session.queue.pending = [] ∧
        session.queue.stopped = false ∧
        session.requested.lines = [7, 2 ^ 63] ∧
        session.state.debugger.breakpoints.lines =
          session.requested.lines.filter (fun line => 1 ≤ line ∧ line < 2 ^ 63) := by
  refine ⟨_, rfl, by decide +kernel, by decide +kernel, by decide +kernel, ?_⟩
  refine ((breakpoint_sets_agree _ _ _ rfl (by decide +kernel) (by decide +kernel)).2.2.2 ?_).1
  intro line happening member named
  simp only [List.mem_cons, List.not_mem_nil, or_false] at member
  rcases member with rfl | rfl | rfl | rfl | rfl | rfl | rfl | rfl
  all_goals simp [Happening.Names, Request.change?] at named

/-- A request for a breakpoint that is submitted directly reaches the debugger and passes the session
by. -/
theorem direct_request_parts_breakpoint_sets :
    ∃ session : Session StandIn,
      (create ({} : StandIn) []).happenAll
          [.submit (.breakpoint (Marker.atLine 5) .added), .deliver] = session ∧
        session.queue.pending = [] ∧
        session.queue.stopped = false ∧
        session.requested.lines = [] ∧
        session.state.debugger.breakpoints.lines = [5] ∧
        session.state.debugger.breakpoints.lines ≠
          session.requested.lines.filter (fun line => 1 ≤ line ∧ line < 2 ^ 63) := by
  refine ⟨_, rfl, ?_⟩
  decide +kernel

end Session

end ScriptDebugger
