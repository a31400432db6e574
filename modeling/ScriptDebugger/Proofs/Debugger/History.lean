import Mathlib.Algebra.Group.Int.Defs
import Mathlib.Algebra.Group.Nat.Defs
import Mathlib.Data.List.Sort
import ScriptDebugger.Debugging.Debugger
import ScriptDebugger.Proofs.Preliminaries

/-!
# What a debugger owes to its history

A debugger keeps two things, its breakpoints and whether it steps.  Both are determined by the requests
that it was given: each line by the last request that changed its breakpoint, and stepping by the last
resumption that the target carried out.  So requests for different lines can change places, and of the
requests for one line all but the last can be left out.
-/

namespace ScriptDebugger

theorem LineSet.eq_of_mem_iff
    {first second : LineSet} (same : ∀ line, line ∈ first ↔ line ∈ second) :
    first = second := by
  obtain ⟨lines, ascending⟩ := first
  obtain ⟨others, othersAscending⟩ := second
  have equal : lines = others := ascending.eq_of_mem_iff othersAscending same
  subst equal
  rfl

/-! ## The line of a marker -/

namespace Marker

/-- A marker of a line, or of no line, with attributes set one after the other. -/
def assigned (line : Option Nat) (assignments : List (String × Int)) : Marker :=
  assignments.foldl (fun marker assignment => marker.set assignment.1 assignment.2)
    (line.elim unknown atLine)

/-- The value that an assignment gives to the line number. -/
def lineAssigned? (assignment : String × Int) : Option Int :=
  if assignment.1 = lineNumber then some assignment.2 else none

/-- The line number that a marker is left with: the one assigned last, or else the line that it was made
for, where a line of `2 ^ 63` or more counts as `-1`. -/
def finalLineNumber? (line : Option Nat) (assignments : List (String × Int)) : Option Int :=
  (assignments.filterMap lineAssigned?).getLast?.or
    (line.map fun line : Nat => if line < 2 ^ 63 then (line : Int) else -1)

theorem lookup_atLine (line : Nat) :
    (atLine line).attributes.lookup lineNumber =
      some (if line < 2 ^ 63 then (line : Int) else -1) := by
  have bound : line ≤ Text.greatestInteger ↔ line < 2 ^ 63 := by
    unfold Text.greatestInteger
    omega
  simp only [atLine, set, List.lookup_cons_self, bound]
  rfl

theorem lookup_assigned (line : Option Nat) (assignments : List (String × Int)) :
    (assigned line assignments).attributes.lookup lineNumber =
      finalLineNumber? line assignments := by
  have stepped (marker : Marker) (assignment : String × Int) :
      (marker.set assignment.1 assignment.2).attributes.lookup lineNumber =
        (lineAssigned? assignment).elim (marker.attributes.lookup lineNumber) some := by
    unfold lineAssigned?
    split
    case isTrue same => rw [set, same, List.lookup_cons_self, Option.elim_some]
    case isFalse different =>
      have other : (lineNumber == assignment.1) = false := by simpa using Ne.symm different
      rw [set, List.lookup_cons, other, Option.elim_none]
  have last := foldl_eq_last (fun marker : Marker => marker.attributes.lookup lineNumber) stepped
    assignments (line.elim unknown atLine)
  rw [assigned, last, finalLineNumber?]
  cases (assignments.filterMap lineAssigned?).getLast? with
  | some value => rfl
  | none =>
      cases line with
      | none => rfl
      | some line =>
          rw [Option.elim_none, Option.elim_some, lookup_atLine, Option.none_or, Option.map_some]

theorem line?_eq (marker : Marker) :
    marker.line? =
      if 1 ≤ marker.getD lineNumber unknownLine
      then some (marker.getD lineNumber unknownLine).toNat else none := by
  unfold line?
  generalize marker.getD lineNumber unknownLine = value
  cases value with
  | negSucc before => rfl
  | ofNat number =>
      cases number with
      | zero => rfl
      | succ before => exact (if_pos (Int.ofNat_le.mpr (Nat.succ_pos before))).symm

theorem line?_eq_some
    {marker : Marker} {line : Nat} :
    marker.line? = some line ↔
      1 ≤ line ∧ marker.attributes.lookup lineNumber = some (line : Int) := by
  rw [line?_eq, getD]
  cases marker.attributes.lookup lineNumber with
  | none => simp [unknownLine]
  | some value =>
      rw [Option.getD_some, Option.some.injEq]
      split <;> simp <;> omega

end Marker

/-! ## Deliveries -/

/-- What a request does to the breakpoint of a line. -/
def Request.change? (line : Nat) : Request → Option BreakpointChange
  | .breakpoint marker change => if marker.line? = some line then some change else none
  | .resume _ | .terminate | .disconnect | .fetchVariables | .changeVariable _ _ | .evaluate _
  | .fetchMemory _ _ => none

theorem Request.change?_breakpoint (line : Nat) (marker : Marker) (change : BreakpointChange) :
    (Request.breakpoint marker change).change? line =
      if marker.line? = some line then some change else none :=
  rfl

/-- A request together with the target as the request finds it.  What the target did before, and which of
its operations fail now, is a matter of this state. -/
structure Delivery (τ : Type) where
  target : τ
  request : Request

section Deliveries

variable {τ ε : Type} [Target τ ε]

namespace Delivery

/-- Whether a delivery changes the breakpoint of a line, if only to what it is already. -/
def Concerns (line : Nat) (delivery : Delivery τ) : Prop :=
  ∃ change, delivery.request.change? line = some change

/-- How a delivery sets the program going, if it asks for that and the target does not fail. -/
def resumption? (delivery : Delivery τ) : Option ResumeKind :=
  match delivery.request with
  | .resume kind => if (Target.resume delivery.target).2.isOk then some kind else none
  | .terminate | .disconnect | .breakpoint _ _ | .fetchVariables | .changeVariable _ _
  | .evaluate _ | .fetchMemory _ _ => none

theorem Concerns.resumption?_eq_none
    {delivery : Delivery τ} {line : Nat} (concerns : delivery.Concerns line) :
    delivery.resumption? = none := by
  obtain ⟨target, request⟩ := delivery
  obtain ⟨change, changes⟩ := concerns
  cases request with
  | breakpoint => rfl
  | resume | terminate | disconnect | fetchVariables | changeVariable | evaluate | fetchMemory =>
      cases changes

/-- A delivery concerns one line at most. -/
theorem Concerns.change?_of_ne
    {delivery : Delivery τ} {line other : Nat} (concerns : delivery.Concerns line)
    (different : other ≠ line) :
    delivery.request.change? other = none := by
  obtain ⟨target, request⟩ := delivery
  obtain ⟨change, changes⟩ := concerns
  cases request with
  | breakpoint marker change =>
      rw [Request.change?_breakpoint] at changes ⊢
      split at changes
      case isTrue here =>
        rw [here, if_neg]
        simpa using different.symm
      case isFalse => cases changes
  | resume | terminate | disconnect | fetchVariables | changeVariable | evaluate | fetchMemory =>
      cases changes

theorem change?_of_not_concerns
    {delivery : Delivery τ} {line : Nat} (other : ¬ delivery.Concerns line) :
    delivery.request.change? line = none :=
  Option.eq_none_iff_forall_ne_some.mpr fun change changes => other ⟨change, changes⟩

end Delivery

/-- What the last delivery that concerns a line does to its breakpoint. -/
def lastChange? (line : Nat) (deliveries : List (Delivery τ)) : Option BreakpointChange :=
  (deliveries.filterMap fun delivery => delivery.request.change? line).getLast?

/-- How the last delivery that sets the program going does so. -/
def lastResumption? (deliveries : List (Delivery τ)) : Option ResumeKind :=
  (deliveries.filterMap Delivery.resumption?).getLast?

namespace Debugger

theorem mem_changeBreakpoint
    (debugger : Debugger) (marker : Marker) (change : BreakpointChange) (line : Nat) :
    line ∈ (debugger.changeBreakpoint marker change).breakpoints ↔
      ((Request.breakpoint marker change).change? line).elim (line ∈ debugger.breakpoints)
        (· = .added) := by
  rw [Request.change?_breakpoint]
  unfold changeBreakpoint
  cases marker.line? with
  | none => simp
  | some place =>
      by_cases here : place = line
      · cases change <;> simp [here]
      · have elsewhere : line ≠ place := Ne.symm here
        cases change <;> simp [here, elsewhere]

theorem handleVariables_debugger (debugger : Debugger) (target : τ) :
    (debugger.handleVariables target).debugger = debugger := by
  unfold handleVariables
  split <;> rfl

/-- A request other than those for breakpoints and resumptions leaves a debugger as it is. -/
theorem handle_debugger
    (debugger : Debugger) (target : τ) {request : Request}
    (unmoved : ∀ kind, request ≠ .resume kind)
    (unmarked : ∀ marker change, request ≠ .breakpoint marker change) :
    (debugger.handle target request).debugger = debugger := by
  cases request with
  | resume kind => exact absurd rfl (unmoved kind)
  | breakpoint marker change => exact absurd rfl (unmarked marker change)
  | fetchVariables => exact debugger.handleVariables_debugger target
  | changeVariable name content =>
      simp only [handle, handleChange]
      split
      · exact debugger.handleVariables_debugger _
      · rfl
  | terminate => simp only [handle, handleTerminate]; split <;> rfl
  | disconnect => simp only [handle, handleDisconnect]; split <;> rfl
  | evaluate evaluation => simp only [handle, handleEvaluate]; split <;> rfl
  | fetchMemory start length => simp only [handle, handleMemory]; split <;> rfl

theorem handleResume_debugger (debugger : Debugger) (target : τ) (kind : ResumeKind) :
    (debugger.handleResume kind target).debugger =
      if (Target.resume target).2.isOk
      then { debugger with stepping := decide (kind = .stepOver) } else debugger := by
  unfold handleResume
  rcases Target.resume target with ⟨resumed, _ | _⟩ <;> rfl

theorem mem_breakpoints_handle
    (debugger : Debugger) (target : τ) (request : Request) (line : Nat) :
    line ∈ (debugger.handle target request).debugger.breakpoints ↔
      (request.change? line).elim (line ∈ debugger.breakpoints) (· = .added) := by
  cases request with
  | breakpoint marker change => exact debugger.mem_changeBreakpoint marker change line
  | resume kind =>
      rw [handle, handleResume_debugger]
      split <;> rfl
  | terminate | disconnect | fetchVariables | changeVariable | evaluate | fetchMemory =>
      rw [debugger.handle_debugger target (by simp) (by simp)]
      rfl

theorem stepping_handle (debugger : Debugger) (delivery : Delivery τ) :
    (debugger.handle delivery.target delivery.request).debugger.stepping =
      delivery.resumption?.elim debugger.stepping fun kind => decide (kind = .stepOver) := by
  obtain ⟨target, request⟩ := delivery
  cases request with
  | resume kind =>
      simp only [handle, handleResume_debugger, Delivery.resumption?]
      split <;> rfl
  | breakpoint marker change =>
      simp only [handle, changeBreakpoint]
      split <;> rfl
  | terminate | disconnect | fetchVariables | changeVariable | evaluate | fetchMemory =>
      rw [debugger.handle_debugger target (by simp) (by simp)]
      rfl

/-- The debugger after deliveries. -/
def afterAll (debugger : Debugger) (deliveries : List (Delivery τ)) : Debugger :=
  deliveries.foldl
    (fun debugger delivery => (debugger.handle delivery.target delivery.request).debugger) debugger

theorem mem_breakpoints_afterAll
    (debugger : Debugger) (deliveries : List (Delivery τ)) (line : Nat) :
    line ∈ (debugger.afterAll deliveries).breakpoints ↔
      (lastChange? line deliveries).elim (line ∈ debugger.breakpoints) (· = .added) :=
  iff_of_eq <| foldl_eq_last (fun debugger : Debugger => line ∈ debugger.breakpoints)
    (fun debugger delivery => propext
      (debugger.mem_breakpoints_handle delivery.target delivery.request line))
    deliveries debugger

theorem stepping_afterAll (debugger : Debugger) (deliveries : List (Delivery τ)) :
    (debugger.afterAll deliveries).stepping =
      (lastResumption? deliveries).elim debugger.stepping fun kind => decide (kind = .stepOver) :=
  foldl_eq_last Debugger.stepping stepping_handle deliveries debugger

/-- Deliveries that end alike for every line and for stepping leave the same debugger. -/
theorem afterAll_congr
    (debugger : Debugger) {first second : List (Delivery τ)}
    (changes : ∀ line, lastChange? line first = lastChange? line second)
    (resumptions : lastResumption? first = lastResumption? second) :
    debugger.afterAll first = debugger.afterAll second := by
  have breakpoints : (debugger.afterAll first).breakpoints =
      (debugger.afterAll second).breakpoints := by
    refine LineSet.eq_of_mem_iff fun line => ?_
    rw [mem_breakpoints_afterAll, mem_breakpoints_afterAll, changes]
  have stepping : (debugger.afterAll first).stepping = (debugger.afterAll second).stepping := by
    rw [stepping_afterAll, stepping_afterAll, resumptions]
  calc
    debugger.afterAll first =
        ⟨(debugger.afterAll first).breakpoints, (debugger.afterAll first).stepping⟩ := rfl
    _ = debugger.afterAll second := by rw [breakpoints, stepping]

/-! ## Requests for breakpoints change places -/

theorem filterMap_change?_of_free
    {between : List (Delivery τ)} {line : Nat}
    (free : ∀ delivery ∈ between, ¬ delivery.Concerns line) :
    (between.filterMap fun delivery => delivery.request.change? line) = [] :=
  List.filterMap_eq_nil_iff.mpr fun delivery member =>
    Delivery.change?_of_not_concerns (free delivery member)

section Exchange

variable {first second : Delivery τ} (debugger : Debugger)
  (before between later : List (Delivery τ))

theorem lastResumption?_exchange
    (unresumedFirst : first.resumption? = none) (unresumedSecond : second.resumption? = none) :
    lastResumption? (before ++ first :: (between ++ second :: later)) =
      lastResumption? (before ++ (between ++ later)) := by
  simp only [lastResumption?, List.filterMap_append, List.filterMap_cons, unresumedFirst,
    unresumedSecond]

/-- Requests for the breakpoints of different lines can change places. -/
theorem afterAll_exchange
    {left right : Nat} (concernsLeft : first.Concerns left) (concernsRight : second.Concerns right)
    (different : left ≠ right)
    (free : ∀ delivery ∈ between, ¬ delivery.Concerns left ∧ ¬ delivery.Concerns right) :
    debugger.afterAll (before ++ first :: (between ++ second :: later)) =
      debugger.afterAll (before ++ second :: (between ++ first :: later)) := by
  have unresumedFirst := concernsLeft.resumption?_eq_none
  have unresumedSecond := concernsRight.resumption?_eq_none
  apply afterAll_congr
  · intro line
    simp only [lastChange?, List.filterMap_append, List.filterMap_cons]
    by_cases atLeft : line = left
    · have none := concernsRight.change?_of_ne (atLeft.trans_ne different)
      have nothing := filterMap_change?_of_free fun delivery member => (free delivery member).1
      rw [atLeft] at none ⊢
      rw [none, nothing]
      rfl
    · have none := concernsLeft.change?_of_ne atLeft
      by_cases atRight : line = right
      · have nothing := filterMap_change?_of_free fun delivery member => (free delivery member).2
        rw [atRight] at none ⊢
        rw [none, nothing]
        rfl
      · rw [none, concernsRight.change?_of_ne atRight]
  · rw [lastResumption?_exchange _ _ _ unresumedFirst unresumedSecond,
      lastResumption?_exchange _ _ _ unresumedSecond unresumedFirst]

/-- Of two requests for the breakpoint of one line the earlier one can be left out. -/
theorem afterAll_superseded
    {line : Nat} (concerns : first.Concerns line) (again : second.Concerns line) :
    debugger.afterAll (before ++ first :: (between ++ second :: later)) =
      debugger.afterAll (before ++ (between ++ second :: later)) := by
  apply afterAll_congr
  · intro other
    by_cases here : other = line
    · obtain ⟨change, changes⟩ := again
      rw [← here] at changes
      simp only [lastChange?, List.filterMap_append, List.filterMap_cons, changes,
        List.getLast?_append, List.getLast?_cons, Option.some_or]
      split <;> simp [List.getLast?_append, List.getLast?_cons]
    · simp only [lastChange?, List.filterMap_append, List.filterMap_cons,
        concerns.change?_of_ne here]
  · simp only [lastResumption?, List.filterMap_append, List.filterMap_cons,
      concerns.resumption?_eq_none]

/-- A request for a breakpoint that repeats the last one for its line can be left out. -/
theorem afterAll_repeated
    {line : Nat} (concerns : first.Concerns line)
    (same : second.request.change? line = first.request.change? line)
    (free : ∀ delivery ∈ between, ¬ delivery.Concerns line) :
    debugger.afterAll (before ++ first :: (between ++ second :: later)) =
      debugger.afterAll (before ++ first :: (between ++ later)) := by
  obtain ⟨change, changes⟩ := concerns
  have again : second.Concerns line := ⟨change, same.trans changes⟩
  apply afterAll_congr
  · intro other
    by_cases here : other = line
    · have nothing := filterMap_change?_of_free free
      rw [here]
      simp only [lastChange?, List.filterMap_append, List.filterMap_cons, same, changes, nothing,
        List.nil_append, List.getLast?_append, List.getLast?_cons, Option.getD_some]
    · simp only [lastChange?, List.filterMap_append, List.filterMap_cons,
        again.change?_of_ne here]
  · simp only [lastResumption?, List.filterMap_append, List.filterMap_cons,
      again.resumption?_eq_none]

end Exchange

/-- After any deliveries, with whatever markers and whichever operations of the target failing, a line has
a breakpoint exactly if the last request for it added one, the debugger steps exactly if the last
resumption that the target carried out was a step, and the program is stopped before the lines that
follow from the two.  A marker stands for the line number that it is left with, if that is positive.
Hence requests for different lines commute, of several requests for one line the last one counts, and
repeating a request changes nothing, whatever other requests come in between. -/
theorem determined_by_history (deliveries : List (Delivery τ)) :
    (∀ line,
      line ∈ (afterAll {} deliveries).breakpoints ↔ lastChange? line deliveries = some .added) ∧
    ((afterAll {} deliveries).stepping = true ↔ lastResumption? deliveries = some .stepOver) ∧
    (∀ line,
      (afterAll {} deliveries).stopsAt line = true ↔
        line ∈ (afterAll {} deliveries).breakpoints ∨ (afterAll {} deliveries).stepping = true) ∧
    (∀ (made : Option Nat) (assignments : List (String × Int)) (line : Nat),
      (Marker.assigned made assignments).line? = some line ↔
        1 ≤ line ∧ Marker.finalLineNumber? made assignments = some (line : Int)) ∧
    (∀ (first second : Delivery τ) (before between later : List (Delivery τ)) (left right : Nat),
      deliveries = before ++ first :: (between ++ second :: later) →
      first.Concerns left →
      second.Concerns right →
      (left ≠ right →
        (∀ delivery ∈ between, ¬ delivery.Concerns left ∧ ¬ delivery.Concerns right) →
        afterAll {} deliveries = afterAll {} (before ++ second :: (between ++ first :: later))) ∧
      (left = right →
        afterAll {} deliveries = afterAll {} (before ++ (between ++ second :: later))) ∧
      (left = right →
        second.request.change? right = first.request.change? left →
        (∀ delivery ∈ between, ¬ delivery.Concerns left) →
        afterAll {} deliveries = afterAll {} (before ++ first :: (between ++ later)))) := by
  refine ⟨?_, ?_, ?_, ?_, ?_⟩
  · intro line
    rw [mem_breakpoints_afterAll]
    cases lastChange? line deliveries <;> simp
  · rw [stepping_afterAll]
    cases lastResumption? deliveries <;> simp
  · intro line
    simp [stopsAt]
  · intro made assignments line
    rw [Marker.line?_eq_some, Marker.lookup_assigned]
  · intro first second before between later left right parts concernsLeft concernsRight
    rw [parts]
    refine ⟨?_, ?_, ?_⟩
    · exact afterAll_exchange _ before between later concernsLeft concernsRight
    · intro same
      exact afterAll_superseded _ before between later concernsLeft (same ▸ concernsRight)
    · intro same repeats free
      exact afterAll_repeated _ before between later concernsLeft (same ▸ repeats) free

end Debugger

end Deliveries

end ScriptDebugger
