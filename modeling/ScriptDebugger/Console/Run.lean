import ScriptDebugger.Console.State

/-!
# Running the console

Between two inputs the session settles; then the console takes the new lines of the output, the new
notices, and the end of the notices if there will be no more.
-/

namespace ScriptDebugger

/-- What the console showed over several turns, until it quit or had taken all. -/
structure Showing where
  console : Console
  /-- The text of every turn. -/
  texts : List String := []
  quits : Bool := false

namespace Console

/-- A console over a script that is started at once. -/
def create (source : String) (breakpoints : List Nat) (stopOnEntry : Bool) : Console :=
  let session := Session.create (Interpreter.ofSource source stopOnEntry) breakpoints
  match session.start with
  | .ok started => { session := started.settle }
  | .error _ => { session := session }

/-- The console with its session settled. -/
def settle (console : Console) : Console :=
  { console with session := console.session.settle }

/-- Takes from sources in order, until the console quits. -/
def takeAll (console : Console) : List Source → Showing
  | [] => { console := console }
  | source :: rest =>
    let turn := console.take source
    if turn.quits then { console := turn.console, texts := [turn.text], quits := true }
    else
      let later := turn.console.takeAll rest
      { later with texts := turn.text :: later.texts }

/-- The sources that have something ready, as often as they have: the output before the notices. -/
def ready (console : Console) : List Source :=
  List.replicate console.unshown.length .output ++
    (List.replicate console.session.unread.length .notice ++
      if console.session.isClosed && !console.noticesClosed then [.notice] else [])

/-- Takes all that is ready. -/
def showReady (console : Console) : Showing :=
  console.takeAll console.ready

/-- Takes from a source, and all that is ready once the session has settled. -/
def takeAndShow (console : Console) (source : Source) : Showing :=
  let turn := console.take source
  if turn.quits then { console := turn.console, texts := [turn.text], quits := true }
  else
    let later := turn.console.settle.showReady
    { later with texts := turn.text :: later.texts }

/-- What is shown at the start and for each source that is taken from, until the console quits. -/
def converse (console : Console) : List Source → List (List String) × Console × Bool
  | [] => ([], console, false)
  | source :: rest =>
    let showing := console.takeAndShow source
    if showing.quits then ([showing.texts], showing.console, true)
    else
      match showing.console.converse rest with
      | (later, console, quits) => (showing.texts :: later, console, quits)

/-- Ends the program unless it has ended or was let go. -/
def finish (console : Console) : Console :=
  match console.session.state.phase with
  | .terminated => console
  | .disconnected => console
  | _ => { console with session := (console.session.submit .terminate).settle }

end Console

end ScriptDebugger
