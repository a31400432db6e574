import ScriptDebugger.Debugging.Worker

/-!
# The journal of a queue

All that happens at a queue, from outside, by its worker and by processors in the middle of a delivery,
is noted in a journal, in the order in which it happens.  The steps are those of the queue and its
worker; the journal is kept beside them.  One relation says what each occurrence does to the queue and
to where its worker is, and every act is a path of such occurrences.
-/

namespace ScriptDebugger

/-- What happens at a queue. -/
inductive Occurrence (κ : Type) where
  /-- An event is posted and waits from then on. -/
  | accepted (event : Event)
  /-- An event is posted and dropped. -/
  | refused (event : Event)
  | registered (number : Nat) (processor : κ)
  | unregistered (number : Nat)
  /-- The queue is stopped by an operation, of a processor or from outside. -/
  | stopped
  /-- The worker takes an event from the queue.  From now on its delivery is under way. -/
  | taken (event : Event)
  /-- The delivery of an event begins: it is settled which processors will be given it. -/
  | begun (event : Event)
  /-- A processor is given an event. -/
  | called (processor : Nat × κ) (event : Event)
  /-- The worker has delivered the final event and stops the queue. -/
  | ended
  /-- The worker finishes. -/
  | closed

namespace Occurrence

variable {κ : Type}

def accepted? : Occurrence κ → Option Event
  | .accepted event => some event
  | _ => none

def taken? : Occurrence κ → Option Event
  | .taken event => some event
  | _ => none

def begun? : Occurrence κ → Option Event
  | .begun event => some event
  | _ => none

def called? : Occurrence κ → Option ((Nat × κ) × Event)
  | .called processor event => some (processor, event)
  | _ => none

/-- The registered processors after an occurrence, in the order of registration. -/
def register (registered : List (Nat × κ)) : Occurrence κ → List (Nat × κ)
  | .registered number processor => registered ++ [(number, processor)]
  | .unregistered number => registered.filter fun processor => processor.1 != number
  | .closed => []
  | .accepted _ | .refused _ | .stopped | .taken _ | .begun _ | .called _ _ | .ended => registered

/-- The calls that are due when an occurrence finds processors registered. -/
def due (registered : List (Nat × κ)) (occurrence : Occurrence κ) : List ((Nat × κ) × Event) :=
  occurrence.begun?.toList.flatMap fun event => registered.map fun processor => (processor, event)

/-- The events that are due to the processor of a number. -/
def dueTo (number : Nat) (registered : List (Nat × κ)) (occurrence : Occurrence κ) : List Event :=
  if registered.any fun processor => processor.1 == number then occurrence.begun?.toList else []

end Occurrence

/-! ## Reading a journal -/

namespace Journal

variable {κ : Type}

/-- The events that were accepted. -/
def accepted (journal : List (Occurrence κ)) : List Event :=
  journal.filterMap Occurrence.accepted?

/-- The events that the worker has taken. -/
def taken (journal : List (Occurrence κ)) : List Event :=
  journal.filterMap Occurrence.taken?

/-- The events whose delivery has begun. -/
def begun (journal : List (Occurrence κ)) : List Event :=
  journal.filterMap Occurrence.begun?

def calls (journal : List (Occurrence κ)) : List ((Nat × κ) × Event) :=
  journal.filterMap Occurrence.called?

/-- The events that calls give to the processor of a number. -/
def givenTo (number : Nat) (calls : List ((Nat × κ) × Event)) : List Event :=
  (calls.filter fun call => call.1.1 == number).map Prod.snd

/-- The processors that are registered after a journal, if `registered` were before it. -/
def registeredAfter (registered : List (Nat × κ)) (journal : List (Occurrence κ)) :
    List (Nat × κ) :=
  journal.foldl Occurrence.register registered

/-- The calls that a journal makes due: each event that is delivered is due to the processors that are
registered when its delivery begins, in the order of registration. -/
def callsDue (registered : List (Nat × κ)) : List (Occurrence κ) → List ((Nat × κ) × Event)
  | [] => []
  | occurrence :: later =>
    occurrence.due registered ++ callsDue (occurrence.register registered) later

/-- The delivered events for which a processor is registered under a number when their delivery
begins. -/
def eventsDue (number : Nat) (registered : List (Nat × κ)) : List (Occurrence κ) → List Event
  | [] => []
  | occurrence :: later =>
    occurrence.dueTo number registered ++
      eventsDue number (occurrence.register registered) later

variable (journal : List (Occurrence κ)) (occurrence : Occurrence κ)

theorem accepted_concat :
    accepted (journal ++ [occurrence]) = accepted journal ++ occurrence.accepted?.toList := by
  rw [accepted, List.filterMap_append, List.filterMap_cons]
  cases occurrence.accepted? <;> rfl

theorem taken_concat :
    taken (journal ++ [occurrence]) = taken journal ++ occurrence.taken?.toList := by
  rw [taken, List.filterMap_append, List.filterMap_cons]
  cases occurrence.taken? <;> rfl

theorem begun_concat :
    begun (journal ++ [occurrence]) = begun journal ++ occurrence.begun?.toList := by
  rw [begun, List.filterMap_append, List.filterMap_cons]
  cases occurrence.begun? <;> rfl

theorem calls_concat :
    calls (journal ++ [occurrence]) = calls journal ++ occurrence.called?.toList := by
  rw [calls, List.filterMap_append, List.filterMap_cons]
  cases occurrence.called? <;> rfl

theorem registeredAfter_concat (registered : List (Nat × κ)) :
    registeredAfter registered (journal ++ [occurrence]) =
      occurrence.register (registeredAfter registered journal) :=
  List.foldl_append

theorem callsDue_concat (registered : List (Nat × κ)) :
    callsDue registered (journal ++ [occurrence]) =
      callsDue registered journal ++ occurrence.due (registeredAfter registered journal) := by
  induction journal generalizing registered with
  | nil => exact List.append_nil _
  | cons first later inductionHypothesis =>
      rw [List.cons_append, callsDue, inductionHypothesis, callsDue, List.append_assoc]
      rfl

theorem eventsDue_concat (number : Nat) (registered : List (Nat × κ)) :
    eventsDue number registered (journal ++ [occurrence]) =
      eventsDue number registered journal ++
        occurrence.dueTo number (registeredAfter registered journal) := by
  induction journal generalizing registered with
  | nil => exact List.append_nil _
  | cons first later inductionHypothesis =>
      rw [List.cons_append, eventsDue, inductionHypothesis, eventsDue, List.append_assoc]
      rfl

/-- Of the calls for one event those of one number are one or none. -/
theorem givenTo_event
    {processors : List (Nat × κ)}
    (ascending : processors.Pairwise fun first second => first.1 < second.1)
    (number : Nat) (event : Event) :
    givenTo number (processors.map fun processor => (processor, event)) =
      if processors.any fun processor => processor.1 == number then [event] else [] := by
  induction processors with
  | nil => rfl
  | cons processor later inductionHypothesis =>
      obtain ⟨greater, rest⟩ := List.pairwise_cons.mp ascending
      have others := inductionHypothesis rest
      unfold givenTo at others ⊢
      by_cases same : processor.1 = number
      · -- The later processors have greater numbers.
        have absent : (later.any fun other => other.1 == number) = false := by
          rw [List.any_eq_false]
          intro other member equal
          have := greater other member
          have := beq_iff_eq.mp equal
          omega
        rw [absent] at others
        simpa [same] using others
      · have different : (processor.1 == number) = false := beq_eq_false_iff_ne.mpr same
        rw [List.map_cons, List.filter_cons_of_neg (by simp [same]), List.any_cons, different,
          Bool.false_or]
        exact others

end Journal

/-! ## Keeping a journal -/

section Keeping

variable {κ σ : Type}

/-- What an operation on a queue makes happen. -/
def EventQueue.occurrences (queue : EventQueue κ) : QueueOperation κ → List (Occurrence κ)
  | .register processor => [.registered (queue.lastNumber + 1) processor]
  | .unregister number => [.unregistered number]
  | .post events =>
    events.map fun event => if queue.stopped then .refused event else .accepted event
  | .stop => [.stopped]
  | .start | .flush _ | .join => []

/-- The event that a worker takes next, if it runs and the queue is not stopped. -/
def EventQueue.next? (queue : EventQueue κ) : Option Event :=
  if queue.worker = .running ∧ queue.stopped = false then queue.pending.head? else none

namespace Situation

/-- What the next step of the worker makes happen. -/
def advanceOccurrences (now : Situation κ σ) : List (Occurrence κ) :=
  match now.stage with
  | .idle => now.queue.next?.toList.map .taken
  | .taken event => [.begun event]
  | .calling event due =>
    due.head?.elim (if event.isFinal then [.ended] else []) fun processor =>
      [.called processor event]
  | .handling _ _ operations _ _ => operations.head?.elim [] now.queue.occurrences
  | .leaving => [.closed]

def actOccurrences (now : Situation κ σ) : Act κ → List (Occurrence κ)
  | .perform operation => now.queue.occurrences operation
  | .advance => now.advanceOccurrences

/-- The journal of acts. -/
def journal (handler : Handler κ σ) (now : Situation κ σ) : List (Act κ) → List (Occurrence κ)
  | [] => []
  | made :: later => now.actOccurrences made ++ (now.act handler made).journal handler later

end Situation

end Keeping

/-! ## What an occurrence does -/

namespace EventQueue

variable {κ σ : Type}

/-- `Happens queue stage occurrence changed next` means what the occurrence does to a queue and to where
its worker is. -/
inductive Happens (queue : EventQueue κ) :
    Stage κ → Occurrence κ → EventQueue κ → Stage κ → Prop
  | accepts {stage : Stage κ} {event : Event} :
      queue.stopped = false →
      Happens queue stage (.accepted event)
        { queue with pending := queue.pending ++ [event] } stage
  | refuses {stage : Stage κ} {event : Event} :
      queue.stopped = true →
      Happens queue stage (.refused event) queue stage
  | registers {stage : Stage κ} (processor : κ) :
      Happens queue stage (.registered (queue.lastNumber + 1) processor)
        (queue.register processor) stage
  | unregisters {stage : Stage κ} (number : Nat) :
      Happens queue stage (.unregistered number) (queue.unregister number) stage
  | stops {stage : Stage κ} :
      Happens queue stage .stopped queue.stop stage
  | takes {event : Event} {rest : List Event} :
      queue.worker = .running →
      queue.stopped = false →
      queue.pending = event :: rest →
      Happens queue .idle (.taken event) { queue with pending := rest } (.taken event)
  | begins {event : Event} :
      Happens queue (.taken event) (.begun event) queue (.calling event queue.processors)
  | calls {event : Event} {processor : Nat × κ} {due : List (Nat × κ)}
      (operations : List (QueueOperation κ)) (result : Except String Unit) :
      Happens queue (.calling event (processor :: due)) (.called processor event) queue
        (.handling event processor operations result due)
  | ends {event : Event} :
      event.isFinal = true →
      Happens queue (.calling event []) .ended queue.stop .leaving
  | closes :
      Happens queue .leaving .closed queue.close .idle

/-- `Passes queue stage changed next` means that the worker goes on, is started or is waited for, and
nothing happens at the queue. -/
inductive Passes (queue : EventQueue κ) : Stage κ → EventQueue κ → Stage κ → Prop
  | starts {stage : Stage κ} :
      queue.worker = .notStarted →
      Passes queue stage { queue with worker := .running, joinable := true } stage
  | joins {stage : Stage κ} :
      Passes queue stage { queue with joinable := false } stage
  | performs {event : Event} {processor : Nat × κ} {operation : QueueOperation κ}
      {operations : List (QueueOperation κ)} {result : Except String Unit} {due : List (Nat × κ)} :
      Passes queue (.handling event processor (operation :: operations) result due)
        queue (.handling event processor operations result due)
  | concludes {event : Event} {processor : Nat × κ} {result : Except String Unit}
      {due : List (Nat × κ)} :
      Passes queue (.handling event processor [] result due) queue (.calling event due)
  | rests {event : Event} :
      event.isFinal = false →
      Passes queue (.calling event []) queue .idle
  | leaves :
      queue.worker = .running →
      queue.stopped = true →
      Passes queue .idle queue .leaving

/-- `Path queue stage journal changed next` means that the journal leads from one queue and stage to the
other. -/
inductive Path :
    EventQueue κ → Stage κ → List (Occurrence κ) → EventQueue κ → Stage κ → Prop
  | refl {queue : EventQueue κ} {stage : Stage κ} :
      Path queue stage [] queue stage
  | happens {queue middle changed : EventQueue κ} {stage next last : Stage κ}
      {occurrence : Occurrence κ} {journal : List (Occurrence κ)} :
      Happens queue stage occurrence middle next →
      Path middle next journal changed last →
      Path queue stage (occurrence :: journal) changed last
  | passes {queue middle changed : EventQueue κ} {stage next last : Stage κ}
      {journal : List (Occurrence κ)} :
      Passes queue stage middle next →
      Path middle next journal changed last →
      Path queue stage journal changed last

section Paths

variable {queue middle changed : EventQueue κ} {stage next last : Stage κ}

theorem Path.append
    {first second : List (Occurrence κ)} (path : Path queue stage first middle next)
    (later : Path middle next second changed last) :
    Path queue stage (first ++ second) changed last := by
  induction path with
  | refl => exact later
  | happens happens _ inductionHypothesis => exact .happens happens (inductionHypothesis later)
  | passes passes _ inductionHypothesis => exact .passes passes (inductionHypothesis later)

theorem Happens.path
    {occurrence : Occurrence κ} (happens : Happens queue stage occurrence changed next) :
    Path queue stage [occurrence] changed next :=
  .happens happens .refl

theorem Passes.path (passes : Passes queue stage changed next) : Path queue stage [] changed next :=
  .passes passes .refl

/-! ### Operations -/

end Paths

end EventQueue

/-! ## Acts -/

namespace Situation

open EventQueue

variable {κ σ : Type} (handler : Handler κ σ) (now : Situation κ σ)

end Situation

end ScriptDebugger
