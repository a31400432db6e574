import ScriptDebugger.Debugging.Debugger

/-!
# Recording events

A bench is a queue with a debugger and a recorder, for trying out a debugger: the recorder keeps every
event that it is delivered.
-/

namespace ScriptDebugger

/-! ## Descriptions of notices -/

/-- Parts in a row, with commas between them. -/
def commaSeparated (parts : List String) : String :=
  ", ".intercalate parts

/-- How messages speak of a notice. -/
def Notice.describe : Notice → String
  | .started => "DebuggerStarted"
  | .suspended line => "Suspended \x7b line: " ++ Text.decimal line ++ " \x7d"
  | .resumed .continue => "Resumed \x7b cause: Continue \x7d"
  | .resumed .stepping => "Resumed \x7b cause: Stepping \x7d"
  | .terminated => "Terminated"
  | .bindings values =>
    "Variables(\x7b" ++ commaSeparated (values.entries.map fun entry =>
      Text.quote entry.1 ++ ": " ++ Text.quote entry.2) ++ "\x7d)"
  | .evaluated evaluation result =>
    "EvaluateExpressionResult \x7b result: " ++ Text.quote result ++
      ", request: EvaluateExpression \x7b id: RequestId(" ++ Text.decimal evaluation.id ++
      "), expression: " ++ Text.quote evaluation.expression ++ " \x7d \x7d"
  | .memory start bytes =>
    "Memory \x7b start_address: " ++ Text.decimal start ++ ", bytes: [" ++
      commaSeparated (bytes.map fun byte => Text.decimal byte.toNat) ++ "] \x7d"

/-- Why waiting for recorded notices fails. -/
structure RecorderTimeout where
  milliseconds : Nat
  expected : Nat
  notices : List Notice
  deriving DecidableEq

/-- The wording of a recorder's timeout. -/
def RecorderTimeout.message (error : RecorderTimeout) : String :=
  "timed out after " ++ Text.duration error.milliseconds ++ " waiting for " ++
    Text.decimal error.expected ++ " events, got [" ++
    commaSeparated (error.notices.map Notice.describe) ++ "]"

/-! ## The bench -/

/-- The processors of a bench. -/
inductive BenchRole where
  | debugger
  | recorder
  deriving DecidableEq, Repr

/-- What the processors of a bench act on. -/
structure BenchState (τ : Type) where
  target : τ
  debugger : Debugger := {}
  recorded : List Event := []

/-- A debugger and a recorder at a queue. -/
structure Bench (τ : Type) where
  queue : EventQueue BenchRole
  state : BenchState τ

variable {τ ε : Type} [Target τ ε]

/-- What the processors of a bench do with events. -/
def benchHandler : Handler BenchRole (BenchState τ) where
  react
    | .debugger, event, state =>
      match state.debugger.serve state.target event with
      | (debugger, target, operations) =>
        ({ state with debugger := debugger, target := target }, operations)
    | .recorder, event, state => ({ state with recorded := state.recorded ++ [event] }, [])
  result
    | .debugger, event, state => state.debugger.verdict state.target event
    | .recorder, _, _ => .ok ()

namespace Bench

/-- A bench over a target, with the queue's worker running and the processors registered in order. -/
def create (target : τ) (roles : List BenchRole) : Bench τ where
  queue := roles.foldl EventQueue.register { worker := .running, joinable := true }
  state := { target := target }

/-- Delivers all that waits. -/
def drain (bench : Bench τ) : Bench τ :=
  match EventQueue.turns benchHandler (2 * bench.queue.pending.length + 1)
      (bench.queue, bench.state) with
  | (queue, state) => { queue := queue, state := state }

/-- Posts an event. -/
def post (bench : Bench τ) (event : Event) : Bench τ :=
  { bench with queue := bench.queue.post event }

/-- Posts what the debugger has to tell of a signal. -/
def signal (bench : Bench τ) (signal : Signal) : Bench τ :=
  bench.post (.notice (bench.state.debugger.notice signal))

/-- Lets the debugger handle a request at once. -/
def handle (bench : Bench τ) (request : Request) :
    Bench τ × Except (RequestError ε) Unit :=
  let response : Response τ ε := bench.state.debugger.handle bench.state.target request
  let queue := response.operations.foldl
    (fun queue operation => (EventQueue.perform .outside queue operation).1) bench.queue
  ({ queue := queue,
     state := { bench.state with debugger := response.debugger, target := response.target } },
    response.result)

/-- The recorded notices. -/
def notices (bench : Bench τ) : List Notice :=
  bench.state.recorded.filterMap fun event =>
    match event with
    | .notice notice => some notice
    | .request _ => none

/-- Waits until a number of notices is recorded. -/
def waitRecorded (bench : Bench τ) (expected milliseconds : Nat) :
    Except RecorderTimeout (List Notice) :=
  if expected ≤ bench.notices.length then .ok bench.notices
  else .error ⟨milliseconds, expected, bench.notices⟩

end Bench

end ScriptDebugger
