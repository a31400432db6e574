import ScriptDebugger.Debugging.Recorder
import ScriptDebugger.Debugging.Rehearsal
import ScriptDebugger.Debugging.StandIn
import ScriptDebugger.Main
import ScriptDebugger.Proofs.Expression.Grammar
import ScriptDebugger.Proofs.Expression.Reading
import ScriptDebugger.Proofs.Expression.Agreement
import ScriptDebugger.Proofs.Expression.Exactness
import ScriptDebugger.Proofs.Expression.Prefixes
import ScriptDebugger.Proofs.Expression.Nesting
import ScriptDebugger.Proofs.Interpreter.Moves
import ScriptDebugger.Proofs.Session.Delivery
import ScriptDebugger.Proofs.Session.Actions
import ScriptDebugger.Proofs.Session.Lifecycle
import ScriptDebugger.Proofs.Session.Settling
import ScriptDebugger.Proofs.Session.Resuming
import ScriptDebugger.Proofs.Text.Blanks
import ScriptDebugger.Proofs.Script.Assignment
import ScriptDebugger.Proofs.Expression.Words
import ScriptDebugger.Proofs.Expression.Scanning
import ScriptDebugger.Proofs.Script.References
import ScriptDebugger.Proofs.Script.NormalForms
import ScriptDebugger.Proofs.Script.Operands
import ScriptDebugger.Proofs.Interpreter.Naming
import ScriptDebugger.Proofs.Script.Edits
import ScriptDebugger.Proofs.Session.Transparency
import ScriptDebugger.Proofs.Session.View
import ScriptDebugger.Proofs.Session.Interleavings
import ScriptDebugger.Proofs.Session.Schedules
import ScriptDebugger.Proofs.Session.Answers
import ScriptDebugger.Proofs.Queue.Journal
import ScriptDebugger.Proofs.Queue.Invariants
import ScriptDebugger.Proofs.Queue.Turns
import ScriptDebugger.Proofs.Queue.Exactness
import ScriptDebugger.Proofs.Debugger.History
import ScriptDebugger.Proofs.Debugger.Failures
import ScriptDebugger.Proofs.Session.Finality
import ScriptDebugger.Proofs.Session.Atomicity
import ScriptDebugger.Proofs.Session.Breakpoints
import ScriptDebugger.Proofs.Session.Memory
import ScriptDebugger.Proofs.Console.Loop
import ScriptDebugger.Proofs.Console.Quitting
import ScriptDebugger.Proofs.Console.Assignments
import ScriptDebugger.Proofs.Console.Commands
import ScriptDebugger.Proofs.Console.HexDumps
import ScriptDebugger.Proofs.Launch.Choosing
import ScriptDebugger.Proofs.CommandLine.WorkingDirectory
