import ScriptDebugger.Proofs.Session.Transparency

/-!
# Requests and their answers

A request is answered at once, by what the script is at that moment.  Over a whole session the published
answers are those to the requests, in their order and each once; what the script tells of itself comes
in between and is no answer.  Every evaluation is made with an id of its own, which its result carries.
So no two results carry the same id, unless an evaluation is submitted again.
-/

namespace ScriptDebugger

/-! ## What answers a request -/

/-- Whether a request can be answered at all. -/
def Request.isAnswerable : Request → Bool
  | .fetchVariables | .changeVariable _ _ | .evaluate _ | .fetchMemory _ _ => true
  | .resume _ | .terminate | .disconnect | .breakpoint _ _ => false

/-- `ReadsFrom memory start length bytes` means that `bytes` are the bytes of the memory from `start`
on, at most `length` of them. -/
structure ReadsFrom (memory : List UInt8) (start : Int) (length : Nat) (bytes : List UInt8) :
    Prop where
  negative : start < 0 → bytes = []
  size : 0 ≤ start → (bytes.length : Int) = min (length : Int) (max 0 (memory.length - start))
  content : ∀ index, index < bytes.length → bytes[index]? = memory[start.toNat + index]?

/-- `interpreter.Answers request notices` means that a script answers a request by the notices. -/
inductive Interpreter.Answers (interpreter : Interpreter) : Request → List Notice → Prop
  | bindings : Answers interpreter .fetchVariables [.bindings interpreter.bindings]
  | changed {name : String} (content : String) :
      Text.isIdentifier name = true →
      Answers interpreter (.changeVariable name content)
        [.bindings
          (interpreter.bindings.insert name (coerce content interpreter.bindings))]
  | refused {name : String} (content : String) :
      Text.isIdentifier name = false →
      Answers interpreter (.changeVariable name content) []
  | value {evaluation : Evaluation} {value : Int} :
      ScriptDebugger.evaluate (substitute evaluation.expression interpreter.bindings)
        interpreter.bindings = .ok value →
      Answers interpreter (.evaluate evaluation) [.evaluated evaluation (Text.decimal value)]
  | noValue {evaluation : Evaluation} {error : EvalError} :
      ScriptDebugger.evaluate (substitute evaluation.expression interpreter.bindings)
        interpreter.bindings = .error error →
      Answers interpreter (.evaluate evaluation) []
  | memory {start : Int} {length : Nat} {bytes : List UInt8} :
      ReadsFrom interpreter.memory start length bytes →
      Answers interpreter (.fetchMemory start length) [.memory start bytes]
  | silent {request : Request} :
      request.isAnswerable = false →
      Answers interpreter request []

theorem readMemory_readsFrom (memory : List UInt8) (start : Int) (length : Nat) :
    ReadsFrom memory start length (readMemory memory start length) := by
  cases start with
  | negSucc before =>
      have outside : readMemory memory (.negSucc before) length = [] := rfl
      rw [outside]
      constructor
      · exact fun _ => rfl
      · intro positive
        omega
      · intro index within
        cases within
  | ofNat start =>
      have taken : readMemory memory (.ofNat start) length = (memory.drop start).take length := rfl
      rw [taken]
      constructor
      · intro negative
        simp only [Int.ofNat_eq_natCast] at negative
        omega
      · intro _
        simp only [List.length_take, List.length_drop, Int.ofNat_eq_natCast]
        omega
      · intro index within
        have short : index < length := by
          rw [List.length_take] at within
          omega
        rw [List.getElem?_take_of_lt short, List.getElem?_drop]
        rfl

/-- `Answered moments notices` means that the notices answer the requests of the moments, one after the
other, each by what the script was at its moment. -/
inductive Answered : List (Interpreter × Request) → List Notice → Prop
  | nil : Answered [] []
  | cons {interpreter : Interpreter} {request : Request} {answer notices : List Notice}
      {later : List (Interpreter × Request)} :
      interpreter.Answers request answer →
      Answered later notices →
      Answered ((interpreter, request) :: later) (answer ++ notices)

theorem Answered.append
    {first second : List (Interpreter × Request)} {answer notices : List Notice}
    (answered : Answered first answer) (later : Answered second notices) :
    Answered (first ++ second) (answer ++ notices) := by
  induction answered with
  | nil => exact later
  | cons answers _ inductionHypothesis =>
      rw [List.append_assoc]
      exact .cons answers inductionHypothesis

/-! ## Ids of evaluations -/

/-- The id of the evaluation that a request asks for. -/
def Request.evaluationId? : Request → Option Nat
  | .evaluate evaluation => some evaluation.id
  | _ => none

/-- The id of the evaluation whose result a notice tells. -/
def Notice.evaluationId? : Notice → Option Nat
  | .evaluated evaluation _ => some evaluation.id
  | _ => none

namespace Session

/-! ## Calls -/

/-- What a client calls, each call carried out until the session is settled. -/
inductive Call where
  | start
  | submit (request : Request)
  /-- An evaluation is made and submitted. -/
  | evaluate (expression : String)
  /-- An evaluation is made, here or elsewhere, and may be submitted later. -/
  | make (expression : String)

/-- The session after a call. -/
def call (session : Session Interpreter) : Call → Session Interpreter
  | .start => session.advance .start
  | .submit request => session.advance (.request request)
  | .evaluate expression => (session.evaluate expression).2.settle
  | .make expression => (session.newEvaluation expression).2

/-- The session after calls. -/
def calls (session : Session Interpreter) (made : List Call) : Session Interpreter :=
  made.foldl call session

/-- The request that a call submits. -/
def requests? (session : Session Interpreter) : Call → Option Request
  | .start | .make _ => none
  | .submit request => some request
  | .evaluate expression => some (.evaluate (session.newEvaluation expression).1)

/-- The request that a call submits to a session that has not ended, with the script at that moment. -/
def asks (session : Session Interpreter) (made : Call) : List (Interpreter × Request) :=
  if session.queue.stopped then []
  else (session.requests? made).toList.map fun request => (session.state.target, request)

/-- The requests that calls submit before the session ends, each with the script at that moment. -/
def moments (session : Session Interpreter) : List Call → List (Interpreter × Request)
  | [] => []
  | made :: later => session.asks made ++ (session.call made).moments later

/-- The published notices that answer requests. -/
def answers (session : Session Interpreter) : List Notice :=
  session.state.published.filter fun notice => !notice.isLifecycle

section Calls

variable {script : List String} {held : Bool} {session : Session Interpreter}

/-- The session that has chosen an id differs from the session before in nothing else. -/
theorem Coherent.newEvaluation
    (coherent : session.Coherent script held) (expression : String) :
    (session.newEvaluation expression).2.Coherent script held :=
  ⟨coherent.script, coherent.held, coherent.paused, coherent.queue⟩

end Calls

/-! ## Ids that a session chooses -/

theorem lastId_signals (signals : List Signal) (session : Session Interpreter) :
    (signals.foldl signal session).lastId = session.lastId := by
  induction signals generalizing session with
  | nil => rfl
  | cons first later inductionHypothesis =>
      rw [List.foldl_cons, inductionHypothesis]
      rfl

theorem lastId_settle (session : Session Interpreter) : session.settle.lastId = session.lastId := by
  change (Session.proceed session.drain).lastId = session.lastId
  rw [proceed]
  exact lastId_signals _ _

/-- How many ids a call gives out. -/
def Call.takes : Call → Nat
  | .start | .submit _ => 0
  | .evaluate _ | .make _ => 1

theorem lastId_call (session : Session Interpreter) (made : Call) :
    (session.call made).lastId = session.lastId + made.takes := by
  cases made with
  | submit request => exact lastId_settle _
  | evaluate expression => exact lastId_settle _
  | make expression => rfl
  | start =>
      simp only [call, advance, start]
      cases session.state.target.run (Observer.noting session.state.debugger.stopsAt) [] with
      | error => rfl
      | ok ran => exact (lastId_settle _).trans (lastId_signals _ _)

/-- `Numbered count unused made` means that the calls use every id once: an evaluation that is submitted
was made before and was not submitted yet, and the ids, of which `count` are given out and `unused` are
not submitted yet, do not run out. -/
inductive Numbered : Nat → List Nat → List Call → Prop
  | nil {count : Nat} {unused : List Nat} : Numbered count unused []
  | start {count : Nat} {unused : List Nat} {later : List Call} :
      Numbered count unused later →
      Numbered count unused (.start :: later)
  | other {count : Nat} {unused : List Nat} {request : Request} {later : List Call} :
      request.evaluationId? = none →
      Numbered count unused later →
      Numbered count unused (.submit request :: later)
  | submit {count : Nat} {unused : List Nat} {evaluation : Evaluation} {later : List Call} :
      evaluation.id ∈ unused →
      Numbered count (unused.erase evaluation.id) later →
      Numbered count unused (.submit (.evaluate evaluation) :: later)
  | evaluate {count : Nat} {unused : List Nat} {expression : String} {later : List Call} :
      count + 1 < UInt64.size →
      Numbered (count + 1) unused later →
      Numbered count unused (.evaluate expression :: later)
  | make {count : Nat} {unused : List Nat} {expression : String} {later : List Call} :
      count + 1 < UInt64.size →
      Numbered (count + 1) ((count + 1) :: unused) later →
      Numbered count unused (.make expression :: later)

/-- The ids of the evaluations that calls ask for. -/
def askedIds (session : Session Interpreter) (made : List Call) : List Nat :=
  (session.moments made).filterMap fun moment => moment.2.evaluationId?

/-- The id that a call asks for. -/
def callId? (session : Session Interpreter) (made : Call) : Option Nat :=
  (session.requests? made).bind Request.evaluationId?

/-- The ids that calls ask for are that of the first one, unless the session has ended, and those of the
later ones. -/
theorem askedIds_cons (session : Session Interpreter) (first : Call) (later : List Call) :
    session.askedIds (first :: later) = (session.call first).askedIds later ∨
      session.askedIds (first :: later) =
        (session.callId? first).toList ++ (session.call first).askedIds later := by
  have parts : session.askedIds (first :: later) =
      (session.asks first).filterMap (fun moment => moment.2.evaluationId?) ++
        (session.call first).askedIds later := by
    rw [askedIds, moments, List.filterMap_append]
    rfl
  rw [parts, asks, callId?]
  split
  · exact .inl rfl
  · refine .inr ?_
    cases session.requests? first with
    | none => rfl
    | some request => cases id : request.evaluationId? <;> simp [id]

theorem askedIds_cons_none
    {session : Session Interpreter} {first : Call} (later : List Call)
    (none : session.callId? first = none) :
    session.askedIds (first :: later) = (session.call first).askedIds later := by
  rcases session.askedIds_cons first later with same | same
  · exact same
  · rw [same, none, Option.toList_none, List.nil_append]

/-- An id that is asked for first is not asked for twice if it is not asked for later. -/
theorem nodup_askedIds_cons
    {session : Session Interpreter} {first : Call} {later : List Call} {id : Nat}
    (own : session.callId? first = some id)
    (distinct : ((session.call first).askedIds later).Nodup)
    (unused : id ∉ (session.call first).askedIds later) :
    (session.askedIds (first :: later)).Nodup ∧
      ∀ other ∈ session.askedIds (first :: later),
        other = id ∨ other ∈ (session.call first).askedIds later := by
  rcases session.askedIds_cons first later with same | same
  · rw [same]
    exact ⟨distinct, fun _ member => .inr member⟩
  · rw [same, own, Option.toList_some, List.singleton_append]
    exact ⟨List.nodup_cons.mpr ⟨unused, distinct⟩, fun _ member => List.mem_cons.mp member⟩

/-- Calls that use every id once ask for no id twice. -/
theorem Numbered.askedIds
    {count : Nat} {unused : List Nat} {made : List Call} (numbered : Numbered count unused made)
    {session : Session Interpreter} (counted : session.lastId = count) (distinct : unused.Nodup)
    (given : ∀ id ∈ unused, id ≤ count) :
    (session.askedIds made).Nodup ∧
      ∀ id ∈ session.askedIds made, id ∈ unused ∨ count < id := by
  induction numbered generalizing session with
  | nil => exact ⟨List.nodup_nil, by simp [Session.askedIds, moments]⟩
  | @start _ _ later _ inductionHypothesis =>
      rw [askedIds_cons_none later rfl]
      exact inductionHypothesis ((session.lastId_call .start).trans counted) distinct given
  | @other _ _ request later unnumbered _ inductionHypothesis =>
      have none : session.callId? (.submit request) = none := unnumbered
      rw [askedIds_cons_none later none]
      exact inductionHypothesis ((session.lastId_call (.submit request)).trans counted) distinct
        given
  | @make count unused expression later _ _ inductionHypothesis =>
      have counts : (session.call (.make expression)).lastId = count + 1 := by
        rw [lastId_call, counted, Call.takes]
      have fresh : count + 1 ∉ unused := fun member => by
        have := given _ member
        omega
      obtain ⟨distinctLater, known⟩ := inductionHypothesis counts
        (List.nodup_cons.mpr ⟨fresh, distinct⟩)
        (List.forall_mem_cons.mpr ⟨Nat.le_refl _, fun id member => Nat.le_succ_of_le (given id member)⟩)
      rw [askedIds_cons_none later rfl]
      refine ⟨distinctLater, fun id member => ?_⟩
      rcases known id member with own | beyond
      · rcases List.mem_cons.mp own with rfl | earlier
        · exact .inr (Nat.lt_succ_self _)
        · exact .inl earlier
      · exact .inr (Nat.lt_of_succ_lt beyond)
  | @evaluate count unused expression later few _ inductionHypothesis =>
      have counts : (session.call (.evaluate expression)).lastId = count + 1 := by
        rw [lastId_call, counted, Call.takes]
      have own : session.callId? (.evaluate expression) = some (count + 1) := by
        simp only [callId?, requests?, newEvaluation, counted, Nat.mod_eq_of_lt few]
        rfl
      obtain ⟨distinctLater, known⟩ := inductionHypothesis counts distinct
        fun id member => Nat.le_succ_of_le (given id member)
      have unasked : count + 1 ∉ (session.call (.evaluate expression)).askedIds later := by
        intro member
        rcases known _ member with early | beyond
        · have := given _ early
          omega
        · exact Nat.lt_irrefl _ beyond
      obtain ⟨distinctNow, knownNow⟩ := nodup_askedIds_cons own distinctLater unasked
      refine ⟨distinctNow, fun id member => ?_⟩
      rcases knownNow id member with rfl | afterwards
      · exact .inr (Nat.lt_succ_self _)
      · exact (known id afterwards).imp_right Nat.lt_of_succ_lt
  | @submit count unused evaluation later unsubmitted _ inductionHypothesis =>
      have counts := (session.lastId_call (.submit (.evaluate evaluation))).trans counted
      obtain ⟨distinctLater, known⟩ := inductionHypothesis counts (distinct.erase _)
        fun id member => given id (List.mem_of_mem_erase member)
      have unasked : evaluation.id ∉
          (session.call (.submit (.evaluate evaluation))).askedIds later := by
        intro member
        rcases known _ member with again | beyond
        · exact distinct.not_mem_erase again
        · exact absurd beyond (Nat.not_lt_of_le (given _ unsubmitted))
      obtain ⟨distinctNow, knownNow⟩ := nodup_askedIds_cons rfl distinctLater unasked
      refine ⟨distinctNow, fun id member => ?_⟩
      rcases knownNow id member with rfl | afterwards
      · exact .inl unsubmitted
      · exact (known id afterwards).imp_left List.mem_of_mem_erase

-- An evaluation that is submitted again is answered again.
example :
    ((create (Interpreter.ofSource "a=1" false) []).calls
      [.make "2", .submit (.evaluate ⟨1, "2"⟩),
        .submit (.evaluate ⟨1, "2"⟩)]).state.published.filterMap Notice.evaluationId? = [1, 1] := by
  cbv

end Session

end ScriptDebugger
