import ScriptDebugger.Debugging.Worker

/-!
# A turn of the worker and its steps

A turn of the worker is the outcome of its steps if nobody else acts on the queue meanwhile.  The steps
always come to an end: wherever the worker is, it gets back to the queue.
-/

namespace ScriptDebugger

namespace Situation

open EventQueue

variable {κ σ : Type} (handler : Handler κ σ)

theorem acts_append (now : Situation κ σ) (first second : List (Act κ)) :
    now.acts handler (first ++ second) = (now.acts handler first).acts handler second :=
  List.foldl_append

/-- `Reaches handler now later` means that the worker gets from one situation to the other by itself. -/
def Reaches (now later : Situation κ σ) : Prop :=
  ∃ count, now.acts handler (List.replicate count .advance) = later

section Reaching

variable {handler} {now middle later : Situation κ σ}

theorem Reaches.refl : Reaches handler now now :=
  ⟨0, rfl⟩

theorem Reaches.advance (reaches : Reaches handler (now.advance handler) later) :
    Reaches handler now later := by
  obtain ⟨count, same⟩ := reaches
  exact ⟨count + 1, same⟩

theorem Reaches.trans
    (reaches : Reaches handler now middle) (rest : Reaches handler middle later) :
    Reaches handler now later := by
  obtain ⟨count, rfl⟩ := reaches
  obtain ⟨others, rfl⟩ := rest
  exact ⟨count + others, by rw [← List.replicate_append_replicate, acts_append]⟩

end Reaching

variable (event : Event) (queue : EventQueue κ) (state : σ)

theorem reaches_operations
    (processor : Nat × κ) (operations : List (QueueOperation κ)) (result : Except String Unit)
    (due : List (Nat × κ)) :
    Reaches handler ⟨queue, state, .handling event processor operations result due⟩
      ⟨(operations.foldl (performInside handler processor.2) (queue, state)).1,
        handler.conclude processor.1 event result
          (operations.foldl (performInside handler processor.2) (queue, state)).2,
        .calling event due⟩ := by
  induction operations generalizing queue state with
  | nil => exact .advance .refl
  | cons operation later inductionHypothesis => exact .advance (inductionHypothesis _ _)

theorem reaches_visits (due : List (Nat × κ)) :
    Reaches handler ⟨queue, state, .calling event due⟩
      ⟨(due.foldl (visit handler event) (queue, state)).1,
        (due.foldl (visit handler event) (queue, state)).2, .calling event []⟩ := by
  induction due generalizing queue state with
  | nil => exact .refl
  | cons processor later inductionHypothesis =>
      have handled := reaches_operations handler event queue
        (handler.react processor.2 event state).1 processor
        (handler.react processor.2 event state).2 (handler.result processor.2 event state) later
      exact .advance (handled.trans (inductionHypothesis _ _))

theorem reaches_idle_of_called :
    Reaches handler ⟨queue, state, .calling event []⟩
      ⟨if event.isFinal then queue.close else queue, state, .idle⟩ := by
  apply Reaches.advance
  cases final : event.isFinal with
  | true =>
      simp only [advance, final, if_true]
      exact .advance .refl
  | false =>
      simp only [advance, final, Bool.false_eq_true, if_false]
      exact .refl

/-- The steps of the worker from one event to the next are a turn. -/
theorem reaches_turn :
    Reaches handler ⟨queue, state, .idle⟩
      ⟨(turn handler (queue, state)).1, (turn handler (queue, state)).2, .idle⟩ := by
  cases worker : queue.worker with
  | notStarted | finished =>
      simp only [turn, worker]
      exact .refl
  | running =>
      cases stopped : queue.stopped with
      | true =>
          simp only [turn, worker, stopped, if_true]
          apply Reaches.advance
          simp only [advance, worker, stopped]
          exact .advance .refl
      | false =>
          cases pending : queue.pending with
          | nil =>
              simp only [turn, worker, stopped, pending, Bool.false_eq_true, if_false]
              exact .refl
          | cons event rest =>
              have delivered := (reaches_visits handler event { queue with pending := rest } state
                queue.processors).trans (reaches_idle_of_called handler event _ _)
              apply Reaches.advance
              simp only [advance, worker, stopped, pending]
              apply Reaches.advance
              simp only [advance, turn, worker, stopped, pending, Bool.false_eq_true, if_false]
              cases final : event.isFinal with
              | true => simpa only [deliver, worker, stopped, final, if_true] using delivered
              | false =>
                  simpa only [deliver, worker, stopped, final, Bool.false_eq_true, if_false] using
                    delivered

end Situation

end ScriptDebugger
