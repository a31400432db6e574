import ScriptDebugger.Proofs.Queue.Journal

/-!
# What the journal of a queue explains

Three relations between the journal of a queue and the queue with its worker are kept from occurrence to
occurrence: how the events flow, who is called, and what is cut off.  Each occurrence touches few of
them; what it leaves alone is shown once for all such occurrences.
-/

namespace ScriptDebugger

/-! ## Where the worker is -/

namespace Stage

variable {κ : Type}

/-- The event that the worker has taken and whose delivery has not begun. -/
def unbegun : Stage κ → List Event
  | .taken event => [event]
  | .idle | .calling _ _ | .handling _ _ _ _ _ | .leaving => []

/-- The event whose delivery is under way. -/
def event? : Stage κ → Option Event
  | .taken event | .calling event _ | .handling event _ _ _ _ => some event
  | .idle | .leaving => none

/-- The calls that are still to be made for the event. -/
def due : Stage κ → List ((Nat × κ) × Event)
  | .calling event processors | .handling event _ _ _ processors =>
    processors.map fun processor => (processor, event)
  | .idle | .taken _ | .leaving => []

theorem length_unbegun (stage : Stage κ) : stage.unbegun.length ≤ 1 := by
  cases stage <;> simp [unbegun]

end Stage

/-- Whether an occurrence may come after an earlier one: after a stop nothing is accepted or taken, after
the end of the final delivery or of the worker moreover nothing begins and nobody is called, and after
the final event no other is taken. -/
def Occurrence.Permits {κ : Type} (earlier later : Occurrence κ) : Prop :=
  match earlier with
  | .stopped => later.accepted? = none ∧ later.taken? = none
  | .ended | .closed =>
    later.accepted? = none ∧ later.taken? = none ∧ later.begun? = none ∧ later.called? = none
  | .taken event => event.isFinal = true → later.taken? = none
  | .accepted _ | .refused _ | .registered _ _ | .unregistered _ | .begun _ | .called _ _ => True

namespace EventQueue

variable {κ σ : Type} {queue changed : EventQueue κ} {stage next : Stage κ}
  {journal : List (Occurrence κ)} {occurrence : Occurrence κ}

/-! ## The flow of the events -/

/-- `Flow journal queue stage` means that the journal explains which events wait and which one is under
way. -/
structure Flow (journal : List (Occurrence κ)) (queue : EventQueue κ) (stage : Stage κ) : Prop where
  waiting : queue.worker ≠ .finished →
    Journal.accepted journal = Journal.taken journal ++ queue.pending
  taken : Journal.taken journal <+: Journal.accepted journal
  begun : Journal.taken journal = Journal.begun journal ++ stage.unbegun
  ahead : ∀ before, before <+: journal →
    (Journal.taken before).length ≤ (Journal.begun before).length + 1
  underWay : ∀ event, stage.event? = some event → event ∈ Journal.taken journal

/-- What an occurrence must do to the events in order to keep the flow. -/
theorem Flow.concat
    (flow : Flow journal queue stage)
    (waiting : changed.worker ≠ .finished →
      Journal.accepted journal ++ occurrence.accepted?.toList =
        Journal.taken journal ++ occurrence.taken?.toList ++ changed.pending)
    (taken : Journal.taken journal ++ occurrence.taken?.toList <+:
      Journal.accepted journal ++ occurrence.accepted?.toList)
    (begun : Journal.taken journal ++ occurrence.taken?.toList =
      Journal.begun journal ++ occurrence.begun?.toList ++ next.unbegun)
    (underWay : ∀ event, next.event? = some event →
      event ∈ Journal.taken journal ++ occurrence.taken?.toList) :
    Flow (journal ++ [occurrence]) changed next := by
  rw [← Journal.taken_concat] at waiting taken begun underWay
  rw [← Journal.accepted_concat] at waiting taken
  rw [← Journal.begun_concat] at begun
  refine ⟨waiting, taken, begun, ?_, underWay⟩
  intro before initial
  rcases List.prefix_concat_iff.mp initial with rfl | earlier
  · -- At most one event is taken and not begun.
    rw [begun, List.length_append]
    exact Nat.add_le_add_left next.length_unbegun _
  · exact flow.ahead before earlier

/-- An occurrence that moves no event keeps the flow. -/
theorem Flow.keep
    (flow : Flow journal queue stage) (accepted : occurrence.accepted? = none)
    (taken : occurrence.taken? = none) (begun : occurrence.begun? = none)
    (pending : changed.worker ≠ .finished →
      queue.worker ≠ .finished ∧ changed.pending = queue.pending)
    (unbegun : next.unbegun = stage.unbegun)
    (underWay : ∀ event, next.event? = some event → stage.event? = some event) :
    Flow (journal ++ [occurrence]) changed next := by
  apply flow.concat
  · intro unfinished
    obtain ⟨unfinishedBefore, kept⟩ := pending unfinished
    rw [accepted, taken, kept, Option.toList_none, List.append_nil, List.append_nil]
    exact flow.waiting unfinishedBefore
  · rw [accepted, taken, Option.toList_none, List.append_nil, List.append_nil]
    exact flow.taken
  · rw [taken, begun, unbegun, Option.toList_none, List.append_nil, List.append_nil]
    exact flow.begun
  · intro event holds
    exact List.mem_append_left _ (flow.underWay event (underWay event holds))

theorem Flow.happens
    (flow : Flow journal queue stage) (happens : Happens queue stage occurrence changed next) :
    Flow (journal ++ [occurrence]) changed next := by
  cases happens with
  | refuses | registers | unregisters | stops | calls =>
      exact flow.keep rfl rfl rfl (fun unfinished => ⟨unfinished, rfl⟩) rfl fun _ => id
  | ends =>
      exact flow.keep rfl rfl rfl (fun unfinished => ⟨unfinished, rfl⟩) rfl (by simp [Stage.event?])
  | closes =>
      exact flow.keep rfl rfl rfl (fun unfinished => absurd rfl unfinished) rfl
        (by simp [Stage.event?])
  | @accepts _ event live =>
      apply flow.concat
      · intro unfinished
        rw [flow.waiting unfinished]
        simp [Occurrence.accepted?, Occurrence.taken?]
      · exact (List.append_nil _).symm ▸ flow.taken.trans (List.prefix_append _ _)
      · rw [flow.begun]
        simp [Occurrence.taken?, Occurrence.begun?]
      · exact fun other holds => List.mem_append_left _ (flow.underWay other holds)
  | @takes event rest running live pending =>
      have order : Journal.accepted journal = Journal.taken journal ++ [event] ++ rest := by
        rw [flow.waiting (by simp [running]), pending, List.append_assoc]
        rfl
      apply flow.concat
      · intro _
        rw [order]
        exact List.append_nil _
      · rw [order]
        exact (List.prefix_append _ _).trans (List.prefix_append _ _)
      · rw [flow.begun]
        rfl
      · intro other holds
        rw [← Option.some.inj holds]
        exact List.mem_append_right _ List.mem_cons_self
  | @begins event =>
      apply flow.concat
      · intro unfinished
        rw [flow.waiting unfinished]
        simp [Occurrence.accepted?, Occurrence.taken?]
      · exact (List.append_nil _).symm ▸ (List.append_nil _).symm ▸ flow.taken
      · rw [flow.begun]
        simp [Occurrence.taken?, Occurrence.begun?, Stage.unbegun]
      · exact fun other holds => List.mem_append_left _ (flow.underWay other holds)

theorem Flow.passes
    (flow : Flow journal queue stage) (passes : Passes queue stage changed next) :
    Flow journal changed next := by
  obtain ⟨waiting, taken, begun, ahead, underWay⟩ := flow
  cases passes with
  | starts unstarted => exact ⟨fun _ => waiting (by simp [unstarted]), taken, begun, ahead, underWay⟩
  | joins | performs | concludes => exact ⟨waiting, taken, begun, ahead, underWay⟩
  | rests | leaves => exact ⟨waiting, taken, begun, ahead, by simp [Stage.event?]⟩

/-! ## The calls -/

/-- The numbers of the registered processors ascend and were all given out before. -/
structure Numbered (queue : EventQueue κ) : Prop where
  ascending : queue.processors.Pairwise fun first second => first.1 < second.1
  given : ∀ processor ∈ queue.processors, processor.1 ≤ queue.lastNumber

theorem Numbered.register (numbered : queue.Numbered) (processor : κ) :
    (queue.register processor).Numbered where
  ascending := by
    change (queue.processors ++ [(queue.lastNumber + 1, processor)]).Pairwise _
    rw [List.pairwise_append]
    refine ⟨numbered.ascending, List.pairwise_singleton _ _, ?_⟩
    intro earlier member later same
    rw [List.mem_singleton.mp same]
    exact Nat.lt_succ_of_le (numbered.given earlier member)
  given := by
    intro other member
    rcases List.mem_append.mp member with earlier | same
    · exact Nat.le_succ_of_le (numbered.given other earlier)
    · rw [List.mem_singleton.mp same]
      exact Nat.le_refl _

theorem Numbered.unregister (numbered : queue.Numbered) (number : Nat) :
    (queue.unregister number).Numbered where
  ascending := numbered.ascending.filter _
  given := fun other member => numbered.given other (List.mem_filter.mp member).1

/-- `Attended journal queue stage` means that the calls made so far and those that are still to be made
are the ones that are due. -/
structure Attended (journal : List (Occurrence κ)) (queue : EventQueue κ) (stage : Stage κ) :
    Prop where
  processors : Journal.registeredAfter [] journal = queue.processors
  calls : Journal.calls journal ++ stage.due = Journal.callsDue [] journal
  punctual : ∀ before event, before ++ [.begun event] <+: journal →
    Journal.calls before = Journal.callsDue [] before
  numbered : queue.Numbered
  logs : ∀ number,
    Journal.givenTo number (Journal.callsDue [] journal) = Journal.eventsDue number [] journal

/-- An occurrence that is neither a call nor the beginning of a delivery changes who is registered at
most. -/
theorem Attended.keep
    (attended : Attended journal queue stage) (begun : occurrence.begun? = none)
    (called : occurrence.called? = none)
    (processors : changed.processors = occurrence.register queue.processors)
    (due : next.due = stage.due) (numbered : changed.Numbered) :
    Attended (journal ++ [occurrence]) changed next := by
  have undue (registered : List (Nat × κ)) : occurrence.due registered = [] := by
    rw [Occurrence.due, begun]
    rfl
  have undueTo (number : Nat) (registered : List (Nat × κ)) :
      occurrence.dueTo number registered = [] := by
    rw [Occurrence.dueTo, begun, Option.toList_none, ite_self]
  constructor
  · rw [Journal.registeredAfter_concat, attended.processors, processors]
  · rw [Journal.calls_concat, called, Option.toList_none, List.append_nil, Journal.callsDue_concat,
      undue, List.append_nil, due]
    exact attended.calls
  · intro before event initial
    rcases List.prefix_concat_iff.mp initial with same | earlier
    · have last := List.singleton_inj.mp (List.append_inj' same rfl).2
      rw [← last] at begun
      cases begun
    · exact attended.punctual before event earlier
  · exact numbered
  · intro number
    rw [Journal.callsDue_concat, undue, List.append_nil, Journal.eventsDue_concat, undueTo,
      List.append_nil]
    exact attended.logs number

/-- The beginning of a delivery makes the calls of all registered processors due. -/
theorem Attended.begin
    {event : Event} (attended : Attended journal queue (.taken event)) :
    Attended (journal ++ [.begun event]) queue (.calling event queue.processors) := by
  have made : Journal.calls journal = Journal.callsDue [] journal := by
    rw [← attended.calls]
    exact (List.append_nil _).symm
  have due : Journal.callsDue [] (journal ++ [.begun event]) =
      Journal.callsDue [] journal ++ queue.processors.map fun processor => (processor, event) := by
    rw [Journal.callsDue_concat, attended.processors]
    exact congrArg (Journal.callsDue [] journal ++ ·) (List.append_nil _)
  constructor
  · rw [Journal.registeredAfter_concat]
    exact attended.processors
  · rw [due, Journal.calls_concat, ← made]
    exact congrArg (· ++ _) (List.append_nil _)
  · intro before other initial
    rcases List.prefix_concat_iff.mp initial with same | earlier
    · rw [(List.append_inj' same rfl).1]
      exact made
    · exact attended.punctual before other earlier
  · exact attended.numbered
  · intro number
    have given := Journal.givenTo_event attended.numbered.ascending number event
    have logs := attended.logs number
    rw [due, Journal.eventsDue_concat, attended.processors, ← logs]
    unfold Journal.givenTo at given ⊢
    rw [List.filter_append, List.map_append, given]
    rfl

theorem Attended.call
    {event : Event} {processor : Nat × κ} {due : List (Nat × κ)}
    (attended : Attended journal queue (.calling event (processor :: due)))
    (operations : List (QueueOperation κ)) (result : Except String Unit) :
    Attended (journal ++ [.called processor event]) queue
      (.handling event processor operations result due) := by
  have due : Journal.callsDue [] (journal ++ [.called processor event]) =
      Journal.callsDue [] journal := by
    rw [Journal.callsDue_concat]
    exact List.append_nil _
  constructor
  · rw [Journal.registeredAfter_concat]
    exact attended.processors
  · rw [due, Journal.calls_concat, ← attended.calls, List.append_assoc]
    rfl
  · intro before other initial
    rcases List.prefix_concat_iff.mp initial with same | earlier
    · cases List.singleton_inj.mp (List.append_inj' same rfl).2
    · exact attended.punctual before other earlier
  · exact attended.numbered
  · intro number
    rw [due, Journal.eventsDue_concat, Occurrence.dueTo]
    simpa [Occurrence.begun?] using attended.logs number

theorem Attended.happens
    (attended : Attended journal queue stage)
    (happens : Happens queue stage occurrence changed next) :
    Attended (journal ++ [occurrence]) changed next := by
  have numbered := attended.numbered
  cases happens with
  | accepts => exact attended.keep rfl rfl rfl rfl ⟨numbered.ascending, numbered.given⟩
  | refuses => exact attended.keep rfl rfl rfl rfl numbered
  | registers processor => exact attended.keep rfl rfl rfl rfl (numbered.register processor)
  | unregisters number => exact attended.keep rfl rfl rfl rfl (numbered.unregister number)
  | stops => exact attended.keep rfl rfl rfl rfl ⟨numbered.ascending, numbered.given⟩
  | takes => exact attended.keep rfl rfl rfl rfl ⟨numbered.ascending, numbered.given⟩
  | ends => exact attended.keep rfl rfl rfl rfl ⟨numbered.ascending, numbered.given⟩
  | closes => exact attended.keep rfl rfl rfl rfl ⟨List.Pairwise.nil, by simp [close]⟩
  | begins => exact attended.begin
  | calls operations result => exact attended.call operations result

theorem Attended.passes
    (attended : Attended journal queue stage) (passes : Passes queue stage changed next) :
    Attended journal changed next := by
  obtain ⟨processors, calls, punctual, ⟨ascending, given⟩, logs⟩ := attended
  cases passes with
  | starts | joins | performs | concludes | rests | leaves =>
      exact ⟨processors, calls, punctual, ⟨ascending, given⟩, logs⟩

/-! ## The cut-off -/

/-- `CutOff journal queue stage` means that the queue is stopped and its worker finishes for the reasons
that the journal gives, and that everything in the journal may come after what stands before it. -/
structure CutOff (journal : List (Occurrence κ)) (queue : EventQueue κ) (stage : Stage κ) :
    Prop where
  stopped : queue.stopped = true ↔ .stopped ∈ journal ∨ .ended ∈ journal
  finished : queue.worker = .finished ↔ .closed ∈ journal
  discarded : queue.worker = .finished → queue.stopped = true ∧ queue.pending = []
  busy : stage ≠ .idle → queue.worker = .running
  leaving : stage = .leaving → queue.stopped = true
  ended : .ended ∈ journal → stage = .leaving ∨ .closed ∈ journal
  final : ∀ event ∈ Journal.taken journal, event.isFinal = true →
    .ended ∈ journal ∨ stage.event? = some event
  cause : ∀ before, before ++ [.ended] <+: journal →
    ∃ event ∈ Journal.begun before, event.isFinal = true
  refused : ∀ before event, before ++ [.refused event] <+: journal →
    .stopped ∈ before ∨ .ended ∈ before
  ordered : journal.Pairwise Occurrence.Permits

section CutOff

/-- Before a queue is stopped nothing forbids an event. -/
theorem CutOff.live
    (cutOff : CutOff journal queue stage) (live : queue.stopped = false) :
    .stopped ∉ journal ∧ .ended ∉ journal ∧ .closed ∉ journal := by
  have unstopped := mt cutOff.stopped.mpr (ne_true_of_eq_false live)
  refine ⟨fun stops => unstopped (.inl stops), fun ends => unstopped (.inr ends), fun closed => ?_⟩
  have stopped := (cutOff.discarded (cutOff.finished.mpr closed)).1
  exact ne_true_of_eq_false live stopped

/-- In the middle of a delivery the worker has neither delivered the final event nor finished. -/
theorem CutOff.working
    (cutOff : CutOff journal queue stage) {event : Event} (underWay : stage.event? = some event) :
    .ended ∉ journal ∧ .closed ∉ journal := by
  have running : queue.worker = .running := by
    apply cutOff.busy
    rintro rfl
    cases underWay
  have unclosed : .closed ∉ journal := by
    rw [← cutOff.finished, running]
    nofun
  refine ⟨fun ends => ?_, unclosed⟩
  rcases cutOff.ended ends with rfl | closed
  · cases underWay
  · exact unclosed closed

theorem CutOff.refused_concat
    (cutOff : CutOff journal queue stage)
    (fits : ∀ event, occurrence = .refused event → queue.stopped = true) :
    ∀ before event, before ++ [.refused event] <+: journal ++ [occurrence] →
      .stopped ∈ before ∨ .ended ∈ before := by
  intro before event initial
  rcases List.prefix_concat_iff.mp initial with same | earlier
  · obtain ⟨rfl, last⟩ := List.append_inj' same rfl
    exact cutOff.stopped.mp (fits event (List.singleton_inj.mp last).symm)
  · exact cutOff.refused before event earlier

theorem CutOff.cause_concat
    (cutOff : CutOff journal queue stage)
    (fits : occurrence = .ended → ∃ event ∈ Journal.begun journal, event.isFinal = true) :
    ∀ before, before ++ [.ended] <+: journal ++ [occurrence] →
      ∃ event ∈ Journal.begun before, event.isFinal = true := by
  intro before initial
  rcases List.prefix_concat_iff.mp initial with same | earlier
  · obtain ⟨rfl, last⟩ := List.append_inj' same rfl
    exact fits (List.singleton_inj.mp last).symm
  · exact cutOff.cause before earlier

theorem CutOff.ordered_concat
    (cutOff : CutOff journal queue stage)
    (permitted : ∀ earlier ∈ journal, earlier.Permits occurrence) :
    (journal ++ [occurrence]).Pairwise Occurrence.Permits := by
  rw [List.pairwise_append]
  refine ⟨cutOff.ordered, List.pairwise_singleton _ _, ?_⟩
  intro earlier before later same
  rw [List.mem_singleton.mp same]
  exact permitted earlier before

/-- What is neither an event on its way nor a call may come after anything. -/
theorem permits_of_quiet
    (accepted : occurrence.accepted? = none) (taken : occurrence.taken? = none)
    (begun : occurrence.begun? = none) (called : occurrence.called? = none)
    (earlier : Occurrence κ) : earlier.Permits occurrence := by
  cases earlier with
  | stopped => exact ⟨accepted, taken⟩
  | ended | closed => exact ⟨accepted, taken, begun, called⟩
  | taken => exact fun _ => taken
  | accepted | refused | registered | unregistered | begun | called => trivial

/-- An operation that accepts nothing and does not stop the queue keeps the cut-off. -/
theorem CutOff.keep
    (cutOff : CutOff journal queue stage) (taken : occurrence.taken? = none)
    (other : occurrence ≠ .stopped ∧ occurrence ≠ .ended ∧ occurrence ≠ .closed)
    (fits : ∀ event, occurrence = .refused event → queue.stopped = true)
    (permitted : ∀ earlier ∈ journal, earlier.Permits occurrence)
    (same : changed.stopped = queue.stopped ∧ changed.worker = queue.worker)
    (pending : queue.stopped = true → changed.pending = queue.pending)
    (underWay : next.event? = stage.event?)
    (leaving : next = .leaving ↔ stage = .leaving) (idle : next = .idle ↔ stage = .idle) :
    CutOff (journal ++ [occurrence]) changed next where
  stopped := by
    rw [same.1, cutOff.stopped]
    simp [other.1.symm, other.2.1.symm]
  finished := by
    rw [same.2, cutOff.finished]
    simp [other.2.2.symm]
  discarded := by
    intro finished
    rw [same.2] at finished
    obtain ⟨stopped, empty⟩ := cutOff.discarded finished
    rw [same.1, pending stopped]
    exact ⟨stopped, empty⟩
  busy := by
    intro busy
    rw [same.2]
    exact cutOff.busy (mt idle.mpr busy)
  leaving := by
    intro leaves
    rw [same.1]
    exact cutOff.leaving (leaving.mp leaves)
  ended := by
    intro ends
    have before : .ended ∈ journal := by simpa [other.2.1.symm] using ends
    exact (cutOff.ended before).imp leaving.mpr (List.mem_append_left _)
  final := by
    intro event member final
    rw [Journal.taken_concat, taken, Option.toList_none, List.append_nil] at member
    rw [underWay]
    exact (cutOff.final event member final).imp_left (List.mem_append_left _)
  cause := cutOff.cause_concat fun ends => absurd ends other.2.1
  refused := cutOff.refused_concat fits
  ordered := cutOff.ordered_concat permitted

theorem CutOff.accept
    {event : Event} (cutOff : CutOff journal queue stage) (live : queue.stopped = false) :
    CutOff (journal ++ [.accepted event])
      { queue with pending := queue.pending ++ [event] } stage := by
  obtain ⟨unstopped, unended, unclosed⟩ := cutOff.live live
  refine cutOff.keep rfl (by simp) nofun ?_ ⟨rfl, rfl⟩ ?_ rfl Iff.rfl Iff.rfl
  · intro earlier before
    cases earlier with
    | stopped => exact absurd before unstopped
    | ended => exact absurd before unended
    | closed => exact absurd before unclosed
    | taken => exact fun _ => rfl
    | accepted | refused | registered | unregistered | begun | called => trivial
  · exact fun stopped => absurd stopped (ne_true_of_eq_false live)

theorem CutOff.stop (cutOff : CutOff journal queue stage) :
    CutOff (journal ++ [.stopped]) queue.stop stage where
  stopped := by simp [EventQueue.stop]
  finished := by simp [EventQueue.stop, cutOff.finished]
  discarded := fun finished => ⟨rfl, (cutOff.discarded finished).2⟩
  busy := cutOff.busy
  leaving := fun _ => rfl
  ended := by
    intro ends
    have before : .ended ∈ journal := by simpa using ends
    exact (cutOff.ended before).imp_right (List.mem_append_left _)
  final := by
    intro event member final
    rw [Journal.taken_concat] at member
    have before : event ∈ Journal.taken journal := by simpa [Occurrence.taken?] using member
    exact (cutOff.final event before final).imp_left (List.mem_append_left _)
  cause := cutOff.cause_concat nofun
  refused := cutOff.refused_concat nofun
  ordered := cutOff.ordered_concat fun earlier _ => permits_of_quiet rfl rfl rfl rfl earlier

theorem CutOff.take
    {event : Event} {rest : List Event} (cutOff : CutOff journal queue .idle)
    (running : queue.worker = .running) (live : queue.stopped = false) :
    CutOff (journal ++ [.taken event]) { queue with pending := rest } (.taken event) where
  stopped := by
    rw [cutOff.stopped]
    simp
  finished := by
    rw [cutOff.finished]
    simp
  discarded := by
    intro finished
    rw [running] at finished
    cases finished
  busy := fun _ => running
  leaving := nofun
  ended := by
    intro ends
    have before : .ended ∈ journal := by simpa using ends
    exact absurd before (cutOff.live live).2.1
  final := by
    intro other member final
    rw [Journal.taken_concat] at member
    rcases List.mem_append.mp member with earlier | same
    · -- A final event that was taken before would be under way still.
      rcases cutOff.final other earlier final with ends | underWay
      · exact absurd ends (cutOff.live live).2.1
      · cases underWay
    · exact .inr (congrArg some (List.mem_singleton.mp same).symm)
  cause := cutOff.cause_concat nofun
  refused := cutOff.refused_concat nofun
  ordered := by
    obtain ⟨unstopped, unended, unclosed⟩ := cutOff.live live
    apply cutOff.ordered_concat
    intro earlier before
    cases earlier with
    | stopped => exact absurd before unstopped
    | ended => exact absurd before unended
    | closed => exact absurd before unclosed
    | taken other =>
        intro final
        have member : other ∈ Journal.taken journal := List.mem_filterMap.mpr ⟨_, before, rfl⟩
        rcases cutOff.final other member final with ends | underWay
        · exact absurd ends unended
        · cases underWay
    | accepted | refused | registered | unregistered | begun | called => trivial

/-- What the worker does in the middle of a delivery keeps the cut-off. -/
theorem CutOff.deliver
    {event : Event} (cutOff : CutOff journal queue stage) (underWay : stage.event? = some event)
    (nextUnderWay : next.event? = some event)
    (quiet : occurrence.accepted? = none ∧ occurrence.taken? = none)
    (other : occurrence ≠ .stopped ∧ occurrence ≠ .ended ∧ occurrence ≠ .closed)
    (fits : ∀ event, occurrence ≠ .refused event) :
    CutOff (journal ++ [occurrence]) queue next := by
  obtain ⟨unended, unclosed⟩ := cutOff.working underWay
  refine cutOff.keep quiet.2 other (fun event same => absurd same (fits event)) ?_ ⟨rfl, rfl⟩
    (fun _ => rfl) (nextUnderWay.trans underWay.symm) ?_ ?_
  · intro earlier before
    cases earlier with
    | stopped => exact quiet
    | ended => exact absurd before unended
    | closed => exact absurd before unclosed
    | taken => exact fun _ => quiet.2
    | accepted | refused | registered | unregistered | begun | called => trivial
  · constructor
    · rintro rfl
      cases nextUnderWay
    · rintro rfl
      cases underWay
  · constructor
    · rintro rfl
      cases nextUnderWay
    · rintro rfl
      cases underWay

theorem CutOff.finish
    {event : Event} (cutOff : CutOff journal queue (.calling event []))
    (flow : Flow journal queue (.calling event [])) (final : event.isFinal = true) :
    CutOff (journal ++ [.ended]) queue.stop .leaving where
  stopped := by simp [EventQueue.stop]
  finished := by simp [EventQueue.stop, cutOff.finished]
  discarded := fun finished => ⟨rfl, (cutOff.discarded finished).2⟩
  busy := fun _ => cutOff.busy nofun
  leaving := fun _ => rfl
  ended := fun _ => .inl rfl
  final := fun _ _ _ => .inl (List.mem_append_right _ List.mem_cons_self)
  cause := by
    apply cutOff.cause_concat
    intro _
    have taken := flow.underWay event rfl
    rw [flow.begun] at taken
    exact ⟨event, by simpa [Stage.unbegun] using taken, final⟩
  refused := cutOff.refused_concat nofun
  ordered := cutOff.ordered_concat fun earlier _ => permits_of_quiet rfl rfl rfl rfl earlier

theorem CutOff.close (cutOff : CutOff journal queue .leaving) :
    CutOff (journal ++ [.closed]) queue.close .idle where
  stopped := by
    have stopped := cutOff.stopped.mp (cutOff.leaving rfl)
    simpa [EventQueue.close] using stopped
  finished := by simp [EventQueue.close]
  discarded := fun _ => ⟨rfl, rfl⟩
  busy := fun busy => absurd rfl busy
  leaving := nofun
  ended := fun _ => .inr (List.mem_append_right _ List.mem_cons_self)
  final := by
    intro event member final
    rw [Journal.taken_concat] at member
    have before : event ∈ Journal.taken journal := by simpa [Occurrence.taken?] using member
    rcases cutOff.final event before final with ends | underWay
    · exact .inl (List.mem_append_left _ ends)
    · cases underWay
  cause := cutOff.cause_concat nofun
  refused := cutOff.refused_concat nofun
  ordered := cutOff.ordered_concat fun earlier _ => permits_of_quiet rfl rfl rfl rfl earlier

theorem CutOff.happens
    (cutOff : CutOff journal queue stage) (flow : Flow journal queue stage)
    (happens : Happens queue stage occurrence changed next) :
    CutOff (journal ++ [occurrence]) changed next := by
  cases happens with
  | accepts live => exact cutOff.accept live
  | refuses stopped =>
      exact cutOff.keep rfl (by simp) (fun _ _ => stopped)
        (fun earlier _ => permits_of_quiet rfl rfl rfl rfl earlier) ⟨rfl, rfl⟩ (fun _ => rfl) rfl
        Iff.rfl Iff.rfl
  | registers | unregisters =>
      exact cutOff.keep rfl (by simp) nofun
        (fun earlier _ => permits_of_quiet rfl rfl rfl rfl earlier) ⟨rfl, rfl⟩ (fun _ => rfl) rfl
        Iff.rfl Iff.rfl
  | stops => exact cutOff.stop
  | takes running live => exact cutOff.take running live
  | begins => exact cutOff.deliver rfl rfl ⟨rfl, rfl⟩ (by simp) nofun
  | calls => exact cutOff.deliver rfl rfl ⟨rfl, rfl⟩ (by simp) nofun
  | ends final => exact cutOff.finish flow final
  | closes => exact cutOff.close

theorem CutOff.passes
    (cutOff : CutOff journal queue stage) (passes : Passes queue stage changed next) :
    CutOff journal changed next := by
  obtain ⟨stopped, finished, discarded, busy, leaving, ended, final, cause, refused, ordered⟩ := cutOff
  cases passes with
  | starts unstarted =>
      refine ⟨stopped, ?_, nofun, fun _ => rfl, leaving, ended, final, cause, refused, ordered⟩
      rw [← finished, unstarted]
      simp
  | joins => exact ⟨stopped, finished, discarded, busy, leaving, ended, final, cause, refused, ordered⟩
  | performs | concludes =>
      exact ⟨stopped, finished, discarded, fun _ => busy nofun, nofun,
        fun ends => (ended ends).imp_left nofun, final, cause, refused, ordered⟩
  | @rests event more =>
      refine ⟨stopped, finished, discarded, fun busyNow => absurd rfl busyNow, nofun,
        fun ends => .inr ((ended ends).resolve_left nofun), ?_, cause, refused, ordered⟩
      intro other member isFinal
      rcases final other member isFinal with ends | underWay
      · exact .inl ends
      · obtain rfl := Option.some.inj underWay
        exact absurd isFinal (ne_true_of_eq_false more)
  | leaves running stoppedNow =>
      exact ⟨stopped, finished, discarded, fun _ => running, fun _ => stoppedNow, fun _ => .inl rfl,
        final, cause, refused, ordered⟩

end CutOff

/-! ## Every journal -/

/-- `Explained journal queue stage` means that the journal explains the queue and its worker. -/
structure Explained (journal : List (Occurrence κ)) (queue : EventQueue κ) (stage : Stage κ) :
    Prop where
  flow : Flow journal queue stage
  attended : Attended journal queue stage
  cutOff : CutOff journal queue stage

theorem Explained.path
    {more : List (Occurrence κ)} (explained : Explained journal queue stage)
    (path : Path queue stage more changed next) : Explained (journal ++ more) changed next := by
  induction path generalizing journal with
  | refl =>
      rw [List.append_nil]
      exact explained
  | happens happens _ inductionHypothesis =>
      rw [List.append_cons]
      exact inductionHypothesis ⟨explained.flow.happens happens,
        explained.attended.happens happens, explained.cutOff.happens explained.flow happens⟩
  | passes passes _ inductionHypothesis =>
      exact inductionHypothesis ⟨explained.flow.passes passes, explained.attended.passes passes,
        explained.cutOff.passes passes⟩

end EventQueue

end ScriptDebugger
