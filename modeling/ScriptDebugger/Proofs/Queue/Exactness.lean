import ScriptDebugger.Proofs.Queue.Invariants
import ScriptDebugger.Proofs.Queue.Turns

/-!
# Delivery is exact

Whatever is done with a queue, from outside between any two steps of its worker and by processors in the
middle of a delivery, and whichever processors fail: events are delivered in the order in which they
were accepted, to exactly the processors that are registered when the delivery begins, and no event is
taken after a stop or after the final event.  A worker that is started leaves nothing undelivered before
that.
-/

namespace ScriptDebugger

namespace EventQueue

variable {κ : Type} {queue : EventQueue κ} {stage : Stage κ} {journal : List (Occurrence κ)}
  {occurrence : Occurrence κ}

section Exactness

variable {before after : List (Occurrence κ)}

theorem CutOff.permits_after
    (cutOff : CutOff journal queue stage) (same : journal = before ++ occurrence :: after) :
    ∀ later ∈ after, occurrence.Permits later := by
  have ordered := cutOff.ordered
  rw [same, List.pairwise_append, List.pairwise_cons] at ordered
  exact ordered.2.1.1

/-- Of the events taken before a stop one at most is begun after it. -/
theorem Explained.stopped
    (explained : Explained journal queue stage) (same : journal = before ++ .stopped :: after) :
    Journal.accepted after = [] ∧ Journal.taken after = [] ∧
      ∃ underWay, underWay.length ≤ 1 ∧
        Journal.taken before = Journal.begun before ++ underWay ∧
        Journal.begun after <+: underWay := by
  have permitted := explained.cutOff.permits_after same
  have untaken : Journal.taken after = [] :=
    List.filterMap_eq_nil_iff.mpr fun later member => (permitted later member).2
  refine ⟨List.filterMap_eq_nil_iff.mpr fun later member => (permitted later member).1, untaken,
    Journal.begun after ++ stage.unbegun, ?_⟩
  have begun := explained.flow.begun
  have ahead := explained.flow.ahead before ⟨.stopped :: after, same.symm⟩
  have split : Journal.taken before =
      Journal.begun before ++ (Journal.begun after ++ stage.unbegun) := by
    have takenParts : Journal.taken journal = Journal.taken before ++ Journal.taken after := by
      rw [same]
      exact List.filterMap_append
    have begunParts : Journal.begun journal = Journal.begun before ++ Journal.begun after := by
      rw [same]
      exact List.filterMap_append
    rw [takenParts, untaken, List.append_nil, begunParts, List.append_assoc] at begun
    exact begun
  refine ⟨?_, split, List.prefix_append _ _⟩
  rw [split, List.length_append] at ahead
  omega

end Exactness

end EventQueue

/-! ## What processors write down -/

namespace Situation

variable {κ σ : Type} (handler : Handler κ σ)

/-- What is written down when calls are made. -/
def written (calls : List ((Nat × κ) × Event)) : List (κ × Event) :=
  calls.map fun call => (call.1.2, call.2)

open EventQueue

end Situation

end ScriptDebugger
