import ScriptDebugger.Debugging.Debugger
import ScriptDebugger.Debugging.StandIn

/-!
# Requests that fail

A request fails because its target does, by itself or because it was told to.  No operation of a script or
of its stand-in changes anything when it fails, but for the failure itself, which waits only until the
next operation.  A debugger changes nothing of its own before its target has succeeded.  One request
takes two operations, and can fail in the second of them if the target is told to fail in between: the
change of a variable, which is made then and not told.
-/

namespace ScriptDebugger

/-! ## Targets that fail without effect -/

/-- An operation leaves no failure waiting and changes nothing else when it fails; `calmed` takes back a
failure that waits. -/
structure FailsSafely {τ ε α : Type} (calmed : τ → τ) (operation : τ → τ × Except ε α) : Prop where
  calm : ∀ target, calmed (operation target).1 = (operation target).1
  unchanged : ∀ target error,
    (operation target).2 = .error error → (operation target).1 = calmed target

/-- All operations of a target fail without effect.  While a variable is set, the target may be told to
fail next. -/
structure Recovers {τ ε : Type} [Target τ ε] (calmed : τ → τ) : Prop where
  once : ∀ target, calmed (calmed target) = calmed target
  attach : ∀ attached target,
    Target.setAttached attached (calmed target) = calmed (Target.setAttached attached target)
  resume : FailsSafely calmed (Target.resume : τ → τ × Except ε Unit)
  terminate : FailsSafely calmed (Target.terminate : τ → τ × Except ε Unit)
  bindings : FailsSafely calmed (Target.bindings : τ → τ × Except ε Variables)
  setVariable : ∀ name content target error,
    (Target.setVariable name content target).2 = .error error →
      (Target.setVariable name content target).1 = calmed target
  evaluate : ∀ expression,
    FailsSafely calmed (Target.evaluate expression : τ → τ × Except ε String)
  memory : FailsSafely calmed (Target.memory : τ → τ × Except ε (List UInt8))

theorem Interpreter.attempt_failsSafely
    (operation : Interpreter → Except InterpreterError Interpreter) :
    FailsSafely id fun interpreter : Interpreter =>
      interpreter.attempt (operation interpreter) where
  calm := fun _ => rfl
  unchanged := by
    intro interpreter error failed
    unfold attempt at failed ⊢
    split at failed
    case h_1 => cases failed
    case h_2 => rfl

theorem Interpreter.query_failsSafely
    {α : Type} (query : Interpreter → Except InterpreterError α) :
    FailsSafely id fun interpreter : Interpreter => (interpreter, query interpreter) :=
  ⟨fun _ => rfl, fun _ _ _ => rfl⟩

/-- A script has no failures waiting. -/
theorem Interpreter.recovers : Recovers (id : Interpreter → Interpreter) where
  once := fun _ => rfl
  attach := fun _ _ => rfl
  resume := ⟨fun _ => rfl, fun _ _ failed => by cases failed⟩
  terminate := attempt_failsSafely terminate
  bindings := query_failsSafely fun interpreter => .ok interpreter.bindings
  setVariable := fun name content =>
    (attempt_failsSafely fun interpreter => interpreter.setVariable name content).unchanged
  evaluate := fun expression => query_failsSafely fun interpreter => interpreter.evaluate expression
  memory := query_failsSafely fun interpreter => .ok interpreter.memory

/-- The stand-in without the failure that it was told to have. -/
def StandIn.calmed (standIn : StandIn) : StandIn :=
  { standIn with failNext := false }

theorem StandIn.calmed_of_ready {standIn : StandIn} (ready : standIn.failNext = false) :
    standIn.calmed = standIn := by
  rw [calmed, ← ready]

theorem StandIn.guarded_unchanged
    {α : Type} (operation : TargetOperation) {action : StandIn → StandIn × Except StandInError α}
    (unchanged : ∀ ready error, (action ready).2 = .error error → (action ready).1 = ready)
    (standIn : StandIn) (error : StandInError)
    (failed : (guarded operation standIn action).2 = .error error) :
    (guarded operation standIn action).1 = standIn.calmed := by
  unfold guarded at failed ⊢
  split at failed
  case isTrue waiting =>
    rw [if_pos waiting]
    rfl
  case isFalse ready =>
    rw [if_neg ready, unchanged standIn error failed]
    exact (calmed_of_ready (by simpa using ready)).symm

theorem StandIn.guarded_failsSafely
    {α : Type} (operation : TargetOperation) {action : StandIn → StandIn × Except StandInError α}
    (calm : ∀ ready, ready.failNext = false → (action ready).1.failNext = false)
    (unchanged : ∀ ready error, (action ready).2 = .error error → (action ready).1 = ready) :
    FailsSafely calmed fun standIn => guarded operation standIn action where
  calm := by
    intro standIn
    unfold guarded
    split
    case isTrue => rfl
    case isFalse ready => exact calmed_of_ready (calm standIn (by simpa using ready))
  unchanged := guarded_unchanged operation unchanged

theorem StandIn.recovers : Recovers StandIn.calmed where
  once := fun _ => rfl
  attach := fun _ _ => rfl
  resume := guarded_failsSafely .resume (fun _ ready => ready) (fun _ _ failed => by cases failed)
  terminate :=
    guarded_failsSafely .terminate (fun _ ready => ready) (fun _ _ failed => by cases failed)
  bindings := guarded_failsSafely .bindings (fun _ ready => ready) (fun _ _ _ => rfl)
  setVariable := fun _ _ =>
    guarded_unchanged .setVariable (fun _ _ failed => by cases failed)
  evaluate := by
    intro expression
    apply guarded_failsSafely .evaluate
    · intro standIn ready
      split <;> exact ready
    · intro standIn error _
      split <;> rfl
  memory := guarded_failsSafely .memory (fun _ ready => ready) (fun _ _ _ => rfl)

/-! ## Requests to such a target -/

section Requests

variable {τ ε : Type}

/-- Whether a request fails half done: a variable is changed, and the variables cannot be told. -/
def RequestError.interrupts (error : RequestError ε) : Request → Prop
  | .changeVariable _ _ => error.context = .fetchingVariables
  | _ => False

/-- A response that leaves no failure waiting and, if it is an error and the request is not half done,
tells and changes nothing else. -/
structure Response.Safe (calmed : τ → τ) (debugger : Debugger) (target : τ) (request : Request)
    (response : Response τ ε) : Prop where
  calm : calmed response.target = response.target
  unchanged : ∀ error, response.result = .error error → ¬ error.interrupts request →
    response = { debugger := debugger, target := calmed target, result := .error error }

section Operations

variable {α : Type} {calmed : τ → τ} {operation : τ → τ × Except ε α} {debugger : Debugger}
  {target changed : τ} {request : Request}

theorem FailsSafely.calm_eq
    (safe : FailsSafely calmed operation) {result : Except ε α}
    (performed : operation target = (changed, result)) :
    calmed changed = changed := by
  have calm := safe.calm target
  rwa [performed] at calm

theorem FailsSafely.of_ok
    (safe : FailsSafely calmed operation) {result : Except ε α}
    (performed : operation target = (changed, result)) {response : Response τ ε}
    (same : response.target = changed) (success : response.result = .ok ()) :
    response.Safe calmed debugger target request where
  calm := by
    rw [same]
    exact safe.calm_eq performed
  unchanged := by
    intro error failed
    rw [success] at failed
    cases failed

theorem FailsSafely.of_error
    (safe : FailsSafely calmed operation) {cause : ε}
    (failed : operation target = (changed, .error cause)) (context : RequestContext) :
    Response.Safe calmed debugger target request
      { debugger := debugger, target := changed, result := .error ⟨context, cause⟩ } where
  calm := safe.calm_eq failed
  unchanged := by
    intro error same _
    cases same
    have unchanged : changed = calmed target := by
      rw [← safe.unchanged target cause (by rw [failed]), failed]
    rw [unchanged]

end Operations

variable [Target τ ε] {calmed : τ → τ} (recovers : Recovers calmed) (debugger : Debugger)
  (target : τ) {request : Request}

include recovers

theorem Recovers.handle_safe
    (kept : request ≠ .disconnect) (asks : ∀ marker change, request ≠ .breakpoint marker change) :
    (debugger.handle target request).Safe calmed debugger target request := by
  cases request with
  | disconnect => exact absurd rfl kept
  | breakpoint marker change => exact absurd rfl (asks marker change)
  | resume kind =>
      simp only [Debugger.handle, Debugger.handleResume]
      split
      case h_1 performed => exact recovers.resume.of_ok performed rfl rfl
      case h_2 failed => exact recovers.resume.of_error failed _
  | terminate =>
      simp only [Debugger.handle, Debugger.handleTerminate]
      split
      case h_1 performed => exact recovers.terminate.of_ok performed rfl rfl
      case h_2 failed => exact recovers.terminate.of_error failed _
  | fetchVariables =>
      simp only [Debugger.handle, Debugger.handleVariables]
      split
      case h_1 performed => exact recovers.bindings.of_ok performed rfl rfl
      case h_2 failed => exact recovers.bindings.of_error failed _
  | changeVariable name content =>
      simp only [Debugger.handle, Debugger.handleChange]
      split
      case h_2 changed cause failed =>
        have unchanged : changed = calmed target := by
          rw [← recovers.setVariable name content target cause (by rw [failed]), failed]
        rw [unchanged]
        exact ⟨recovers.once target, fun error same _ => by cases same; rfl⟩
      case h_1 changed performed =>
        simp only [Debugger.handleVariables]
        split
        case h_1 told => exact ⟨recovers.bindings.calm_eq told, nofun⟩
        case h_2 failed =>
          refine ⟨recovers.bindings.calm_eq failed, fun error same whole => ?_⟩
          cases same
          exact absurd rfl whole
  | evaluate evaluation =>
      simp only [Debugger.handle, Debugger.handleEvaluate]
      split
      case h_1 performed => exact (recovers.evaluate _).of_ok performed rfl rfl
      case h_2 failed => exact (recovers.evaluate _).of_error failed _
  | fetchMemory start length =>
      simp only [Debugger.handle, Debugger.handleMemory]
      split
      case h_1 performed => exact recovers.memory.of_ok performed rfl rfl
      case h_2 failed => exact recovers.memory.of_error failed _

/-- If handling a request fails and is not half done, nothing is told and nothing changed but the failure
that was waiting. -/
theorem Recovers.handle_failed
    {error : RequestError ε} (kept : request ≠ .disconnect) (whole : ¬ error.interrupts request)
    (failed : (debugger.handle target request).result = .error error) :
    debugger.handle target request =
      { debugger := debugger, target := calmed target, result := .error error } := by
  have asks : ∀ marker change, request ≠ .breakpoint marker change := by
    rintro marker change rfl
    cases failed
  exact (recovers.handle_safe debugger target kept asks).unchanged error failed whole

/-- A request that fails half done has changed a variable, and told and changed nothing else. -/
theorem Recovers.handle_interrupted
    {error : RequestError ε} {name content : String}
    (half : error.context = .fetchingVariables)
    (failed : (debugger.handle target (.changeVariable name content)).result = .error error) :
    ∃ changed,
      Target.setVariable name content target = (changed, .ok ()) ∧
        (Target.bindings changed).2 = .error error.cause ∧
        debugger.handle target (.changeVariable name content) =
          { debugger := debugger, target := calmed changed, result := .error error } := by
  simp only [Debugger.handle, Debugger.handleChange, Debugger.handleVariables] at failed ⊢
  split at failed
  case h_2 =>
    cases failed
    cases half
  case h_1 changed performed =>
    split at failed
    case h_1 => cases failed
    case h_2 after cause unable =>
      cases failed
      have used : after = calmed changed := by
        rw [← recovers.bindings.unchanged changed cause (by rw [unable]), unable]
      refine ⟨changed, performed, by rw [unable], ?_⟩
      rw [used]

/-- Whatever asks the target for something uses up a failure that waits. -/
theorem Recovers.handle_calm (asks : ∀ marker change, request ≠ .breakpoint marker change) :
    calmed (debugger.handle target request).target = (debugger.handle target request).target := by
  by_cases leaving : request = .disconnect
  · subst leaving
    simp only [Debugger.handle, Debugger.handleDisconnect]
    split
    case h_1 performed => exact recovers.resume.calm_eq performed
    case h_2 failed => exact recovers.resume.calm_eq failed
  · exact (recovers.handle_safe debugger target leaving asks).calm

end Requests

end ScriptDebugger
