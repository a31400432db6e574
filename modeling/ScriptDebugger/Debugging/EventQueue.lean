import ScriptDebugger.Debugging.Event
import ScriptDebugger.Text.Integer

/-!
# The event queue

Events wait in a queue until its worker delivers them, one after the other, to every processor that is
registered then, in the order of registration. Processors act on the queue while they handle an event:
what they post waits behind the rest, and whom they register or unregister counts from the next event
on. The worker ends after the notice of termination or when the queue is stopped; what still waits is
discarded, and so is all that is posted later.
-/

namespace ScriptDebugger

/-- How far the worker of a queue has come. -/
inductive Worker where
  | notStarted
  | running
  | finished
  deriving DecidableEq, Repr

/-- Events on their way to processors of the kind `κ`. -/
structure EventQueue (κ : Type) where
  pending : List Event := []
  /-- The registered processors with their numbers, in the order of registration. -/
  processors : List (Nat × κ) := []
  /-- The number of the processor registered last. -/
  lastNumber : Nat := 0
  stopped : Bool := false
  worker : Worker := .notStarted
  /-- Whether the worker can still be waited for. -/
  joinable : Bool := false

/-- Why a queue refuses an operation. -/
inductive QueueError where
  | alreadyStarted
  | stopped
  | flushTimeout (milliseconds : Nat)
  | joinsItself
  deriving DecidableEq, Repr

/-- The wording of a queue error. -/
def QueueError.message : QueueError → String
  | .alreadyStarted => "event dispatcher already started"
  | .stopped => "event dispatcher stopped"
  | .flushTimeout milliseconds =>
    "timed out after " ++ Text.duration milliseconds ++ " flushing event dispatcher"
  | .joinsItself => "event dispatcher cannot join itself"

/-- What can be done with a queue. -/
inductive QueueOperation (κ : Type) where
  | start
  | register (processor : κ)
  | unregister (number : Nat)
  | post (events : List Event)
  | stop
  /-- Waits until all that was posted is delivered. -/
  | flush (milliseconds : Nat)
  /-- Waits until the worker has finished. -/
  | join

/-- What an operation on a queue results in. -/
inductive QueueOutcome where
  | done
  | registered (number : Nat)
  | unregistered (found : Bool)
  | failed (error : QueueError)
  deriving DecidableEq, Repr

/-- Who performs an operation: the worker, through a processor, or anybody else. -/
inductive Caller where
  | worker
  | outside
  deriving DecidableEq, Repr

namespace EventQueue

variable {κ : Type}

/-! ## Operations -/

/-- Lets an event wait for its delivery, unless the queue is stopped. -/
def post (queue : EventQueue κ) (event : Event) : EventQueue κ :=
  if queue.stopped then queue else { queue with pending := queue.pending ++ [event] }

/-- Registers a processor under the next number. -/
def register (queue : EventQueue κ) (processor : κ) : EventQueue κ :=
  { queue with
    processors := queue.processors ++ [(queue.lastNumber + 1, processor)]
    lastNumber := queue.lastNumber + 1 }

/-- Whether a processor is registered under a number. -/
def isRegistered (queue : EventQueue κ) (number : Nat) : Bool :=
  queue.processors.any fun processor => processor.1 == number

/-- Takes the processor of a number out of the queue. -/
def unregister (queue : EventQueue κ) (number : Nat) : EventQueue κ :=
  { queue with processors := queue.processors.filter fun processor => processor.1 != number }

/-- Lets nothing more be delivered. -/
def stop (queue : EventQueue κ) : EventQueue κ :=
  { queue with stopped := true }

/-- Starts the worker. -/
def start (queue : EventQueue κ) : Except QueueError (EventQueue κ) :=
  match queue.worker with
  | .notStarted => .ok { queue with worker := .running, joinable := true }
  | _ => .error .alreadyStarted

/-- Whether waiting for delivery succeeds. A worker cannot wait for itself, and one that is not
started delivers nothing. -/
def flush (queue : EventQueue κ) (caller : Caller) (milliseconds : Nat) : Except QueueError Unit :=
  if queue.stopped then .error .stopped
  else
    match caller, queue.worker with
    | .outside, .running => .ok ()
    | _, _ => .error (.flushTimeout milliseconds)

/-- Waits for the worker, which can be done once; the worker itself cannot. -/
def join (queue : EventQueue κ) (caller : Caller) : EventQueue κ × Except QueueError Unit :=
  let waited := { queue with joinable := false }
  match caller, queue.joinable with
  | .worker, true => (waited, .error .joinsItself)
  | _, _ => (waited, .ok ())

/-- Performs an operation. -/
def perform (caller : Caller) (queue : EventQueue κ) :
    QueueOperation κ → EventQueue κ × QueueOutcome
  | .start =>
    match queue.start with
    | .ok started => (started, .done)
    | .error error => (queue, .failed error)
  | .register processor =>
    (queue.register processor, .registered (queue.lastNumber + 1))
  | .unregister number => (queue.unregister number, .unregistered (queue.isRegistered number))
  | .post events => (events.foldl post queue, .done)
  | .stop => (queue.stop, .done)
  | .flush milliseconds =>
    match queue.flush caller milliseconds with
    | .ok () => (queue, .done)
    | .error error => (queue, .failed error)
  | .join =>
    match queue.join caller with
    | (waited, .ok ()) => (waited, .done)
    | (waited, .error error) => (waited, .failed error)

end EventQueue

/-! ## Delivery -/

/-- What the processors of a queue do with events, on a state `σ` that they share. -/
structure Handler (κ σ : Type) where
  /-- The operations that a processor performs on the queue while it handles an event. -/
  react : κ → Event → σ → σ × List (QueueOperation κ)
  /-- Takes note of what such an operation resulted in. -/
  note : κ → QueueOperation κ → QueueOutcome → σ → σ := fun _ _ _ state => state
  /-- What the handling of an event results in when it is done. -/
  result : κ → Event → σ → Except String Unit := fun _ _ _ => .ok ()
  /-- Takes note of an error of the processor of a number. -/
  report : Nat → Event → String → σ → σ := fun _ _ _ state => state

/-- The state after a processor is done with an event. An error is reported and nothing else. -/
def Handler.conclude {κ σ : Type} (handler : Handler κ σ) (number : Nat) (event : Event) :
    Except String Unit → σ → σ
  | .ok (), state => state
  | .error error, state => handler.report number event error state

namespace EventQueue

variable {κ σ : Type} (handler : Handler κ σ)

/-- Performs an operation of a processor that handles an event. -/
def performInside (processor : κ) (current : EventQueue κ × σ) (operation : QueueOperation κ) :
    EventQueue κ × σ :=
  match current.1.perform .worker operation with
  | (queue, outcome) => (queue, handler.note processor operation outcome current.2)

/-- Lets a processor handle an event, whether it fails or not. -/
def visit (event : Event) (current : EventQueue κ × σ) (processor : Nat × κ) : EventQueue κ × σ :=
  match handler.react processor.2 event current.2 with
  | (state, operations) =>
    match operations.foldl (performInside handler processor.2) (current.1, state) with
    | (queue, state) =>
      (queue,
        handler.conclude processor.1 event (handler.result processor.2 event current.2) state)

/-- Lets all processors that are registered now handle an event. -/
def deliver (event : Event) (current : EventQueue κ × σ) : EventQueue κ × σ :=
  current.1.processors.foldl (visit handler event) current

/-- The queue after its worker has finished, without events and processors. -/
def close (queue : EventQueue κ) : EventQueue κ :=
  { queue with pending := [], processors := [], stopped := true, worker := .finished }

/-- One turn of the worker: it finishes if the queue is stopped, and delivers the next event
otherwise. -/
def turn (current : EventQueue κ × σ) : EventQueue κ × σ :=
  match current.1.worker with
  | .running =>
    if current.1.stopped then (current.1.close, current.2)
    else
      match current.1.pending with
      | [] => current
      | event :: rest =>
        match deliver handler event ({ current.1 with pending := rest }, current.2) with
        | (queue, state) => if event.isFinal then (queue.close, state) else (queue, state)
  | _ => current

/-- A number of turns of the worker. -/
def turns : Nat → EventQueue κ × σ → EventQueue κ × σ
  | 0, current => current
  | count + 1, current => turns count (turn handler current)

end EventQueue

end ScriptDebugger
