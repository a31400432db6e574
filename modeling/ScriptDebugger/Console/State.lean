import ScriptDebugger.Console.Command
import ScriptDebugger.Console.HexDump
import ScriptDebugger.Debugging.Session

/-!
# The console

The console drives a session from typed commands and shows what the session tells and what the script
writes. It takes one thing at a time, from whichever source has something ready.
-/

namespace ScriptDebugger

/-- A session at the prompt. -/
structure Console where
  session : Session Interpreter
  /-- How many lines of the output were taken. -/
  shown : Nat := 0
  outputClosed : Bool := false
  noticesClosed : Bool := false

/-- What the console does with one thing that it takes. -/
structure Turn where
  console : Console
  /-- The texts printed, each on lines of its own. -/
  printed : List String := []
  quits : Bool := false

/-- What a turn shows: the prompt, then the printed texts. -/
def Turn.text (turn : Turn) : String :=
  turn.printed.foldl (fun shown line => shown ++ line ++ "\n") "> "

/-- Why the console does not carry out an input. -/
inductive ConsoleError where
  | command (error : CommandError)
  | outside (line lineCount : Nat)
  deriving DecidableEq, Repr

/-- The wording of a console error. -/
def ConsoleError.message : ConsoleError → String
  | .command error => error.message
  | .outside line lineCount =>
    "line " ++ Text.decimal line ++ " is outside the program (1-" ++ Text.decimal lineCount ++ ")"

namespace Console

/-- The script at the prompt. -/
def interpreter (console : Console) : Interpreter :=
  console.session.state.target

/-- A line by its number and text. -/
def describeLine (console : Console) (line : Nat) : String :=
  match console.interpreter.line? line with
  | some text => "line " ++ Text.decimal line ++ ": " ++ text
  | none => "line " ++ Text.decimal line

/-- How the prompt speaks of where the program is. -/
def describePhase (console : Console) : String :=
  match console.session.state.phase with
  | .notStarted => "NotStarted"
  | .running => "Running"
  | .suspended line => console.describeLine line
  | .terminated => "Terminated"
  | .disconnected => "Disconnected"

/-! ## Commands -/

/-- Submits a request of a command. -/
def ask (console : Console) (request : Request) : Turn :=
  { console := { console with session := console.session.submit request } }

/-- Carries out a command. -/
def execute (console : Console) : Command → Except ConsoleError Turn
  | .nothing => .ok { console := console }
  | .quit => .ok { console := console, quits := true }
  | .help => .ok { console := console, printed := [helpText] }
  | .continue => .ok (console.ask (.resume .continue))
  | .stepOver => .ok (console.ask (.resume .stepOver))
  | .showVariables => .ok (console.ask .fetchVariables)
  | .setVariable name content => .ok (console.ask (.changeVariable name content))
  | .evaluate expression =>
    .ok { console := { console with session := (console.session.evaluate expression).2 } }
  | .memory start length => .ok (console.ask (.fetchMemory start length))
  | .addBreakpoint line =>
    if 1 ≤ line ∧ line ≤ console.interpreter.lineCount then
      .ok { console := { console with session := console.session.addBreakpoint line } }
    else .error (.outside line console.interpreter.lineCount)
  | .removeBreakpoint line =>
    .ok { console := { console with session := console.session.removeBreakpoint line } }
  | .listBreakpoints =>
    .ok { console := console,
          printed :=
            if console.session.requested.lines.isEmpty then ["no breakpoints"]
            else console.session.requested.lines.map console.describeLine }
  | .whereabouts => .ok { console := console, printed := [console.describePhase] }
  | .terminate => .ok (console.ask .terminate)
  | .disconnect =>
    .ok { console.ask .disconnect with
          printed := ["detached, program continues without the debugger"] }

/-- Carries out a typed line, or shows why it cannot. -/
def enter (console : Console) (line : String) : Turn :=
  match Command.parse line with
  | .error error => { console := console, printed := ["error: " ++ error.message] }
  | .ok command =>
    match console.execute command with
    | .ok turn => turn
    | .error error => { console := console, printed := ["error: " ++ error.message] }

/-! ## Notices and output -/

/-- The texts that show a notice. -/
def describeNotice (console : Console) : Notice → List String
  | .started => ["program started"]
  | .suspended line => ["program paused at " ++ console.describeLine line]
  | .resumed .continue => ["program running"]
  | .resumed .stepping => ["program stepping"]
  | .terminated => ["program completed"]
  | .bindings values =>
    if values.entries.isEmpty then ["no variables"]
    else values.entries.map fun entry => entry.1 ++ " = " ++ entry.2
  | .evaluated evaluation result =>
    ["#" ++ Text.decimal evaluation.id ++ " " ++ evaluation.expression ++ " = " ++ result]
  | .memory start bytes =>
    if bytes.isEmpty then ["no memory at " ++ Text.decimal start] else [HexDump.text start bytes]

/-- How a line of the output is shown. -/
def outputLine (line : String) : String :=
  "| " ++ line

/-- Takes the next notice, or the end of the notices if none is left. -/
def takeNotice (console : Console) : Turn :=
  match console.session.unread with
  | [] => { console := { console with noticesClosed := true } }
  | notice :: _ =>
    { console := { console with
        session := { console.session with received := console.session.received + 1 } },
      printed := console.describeNotice notice,
      quits := notice = .terminated }

/-- The lines of the output not taken yet. -/
def unshown (console : Console) : List String :=
  if console.outputClosed then [] else console.interpreter.output.toList.drop console.shown

/-- The next line of the output to take. -/
def nextOutput? (console : Console) : Option String :=
  if console.outputClosed then none else console.interpreter.output[console.shown]?

theorem nextOutput?_eq_head? (console : Console) :
    console.nextOutput? = console.unshown.head? := by
  unfold nextOutput? unshown
  split <;> simp [List.head?_drop]

/-- Takes the next line of the output, or the end of the output if none is left. -/
def takeOutput (console : Console) : Turn :=
  match console.nextOutput? with
  | none => { console := { console with outputClosed := true } }
  | some line =>
    { console := { console with shown := console.shown + 1 }, printed := [outputLine line] }

/-- What the console can take from. -/
inductive Source where
  /-- A typed line, or the end of the input. -/
  | input (line : Option String)
  | notice
  | output
  deriving DecidableEq, Repr

/-- Takes one thing from a source. -/
def take (console : Console) : Source → Turn
  | .input none => { console := console, quits := true }
  | .input (some line) => console.enter line
  | .notice => console.takeNotice
  | .output => console.takeOutput

end Console

end ScriptDebugger
