import ScriptDebugger.Debugging.EventQueue

/-!
# The worker of a queue, step by step

A turn of the worker is no single step. The worker takes an event and finds that the queue is not
stopped, then looks up who is registered, and then calls one processor after the other, each of which
performs its operations one by one. Others act on the queue between any two of these steps. A turn is
what comes of them if nobody does.
-/

namespace ScriptDebugger

/-- Where the worker of a queue is. -/
inductive Stage (κ : Type) where
  /-- Before the next event. -/
  | idle
  /-- With an event that it has taken, of a queue that was not stopped then. -/
  | taken (event : Event)
  /-- Between two processors, with those to which the event is still due. -/
  | calling (event : Event) (due : List (Nat × κ))
  /-- In the middle of a processor that handles the event, with the operations that it still performs and
  with what the handling will result in. -/
  | handling (event : Event) (processor : Nat × κ) (operations : List (QueueOperation κ))
      (result : Except String Unit) (due : List (Nat × κ))
  /-- After the last event, before what waits is discarded. -/
  | leaving

/-- A queue with the state of its processors and its worker in the middle of its work. -/
structure Situation (κ σ : Type) where
  queue : EventQueue κ
  state : σ
  stage : Stage κ := .idle

namespace Situation

variable {κ σ : Type} (handler : Handler κ σ)

/-- The next step of the worker. -/
def advance (now : Situation κ σ) : Situation κ σ :=
  match now.stage with
  | .idle =>
    match now.queue.worker, now.queue.stopped, now.queue.pending with
    | .running, true, _ => { now with stage := .leaving }
    | .running, false, event :: rest =>
      { now with queue := { now.queue with pending := rest }, stage := .taken event }
    | _, _, _ => now
  | .taken event => { now with stage := .calling event now.queue.processors }
  | .calling event [] =>
    if event.isFinal then { now with queue := now.queue.stop, stage := .leaving }
    else { now with stage := .idle }
  | .calling event (processor :: due) =>
    match handler.react processor.2 event now.state with
    | (state, operations) =>
      { now with
        state := state
        stage := .handling event processor operations
          (handler.result processor.2 event now.state) due }
  | .handling event processor [] result due =>
    { now with
      state := handler.conclude processor.1 event result now.state
      stage := .calling event due }
  | .handling event processor (operation :: operations) result due =>
    match EventQueue.performInside handler processor.2 (now.queue, now.state) operation with
    | (queue, state) => ⟨queue, state, .handling event processor operations result due⟩
  | .leaving => { now with queue := now.queue.close, stage := .idle }

/-- An operation from outside, wherever the worker is. -/
def perform (now : Situation κ σ) (operation : QueueOperation κ) : Situation κ σ :=
  { now with queue := (now.queue.perform .outside operation).1 }

/-- Who acts next: somebody outside, or the worker. -/
inductive Act (κ : Type) where
  | perform (operation : QueueOperation κ)
  | advance

/-- The situation after an act. -/
def act (now : Situation κ σ) : Act κ → Situation κ σ
  | .perform operation => now.perform operation
  | .advance => now.advance handler

/-- The situation after acts in a row. -/
def acts (now : Situation κ σ) (made : List (Act κ)) : Situation κ σ :=
  made.foldl (act handler) now

end Situation

end ScriptDebugger
