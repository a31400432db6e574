import ScriptDebugger.CommandLine.Run

/-!
# The command line program

Reading and printing for the program that `start`, `Console.takeAndShow` and `Console.finish` describe.
-/

namespace ScriptDebugger

/-! ## Files -/

/-- A file error from the number and the words of the system. -/
def FileError.ofCode (code : UInt32) (details : String) : FileError :=
  if code = 2 then .notFound
  else if code = 20 then .notADirectory
  else if code = 21 then .isADirectory
  else if code = 36 then .nameTooLong
  else .other (details ++ " (os error " ++ Text.decimal code.toNat ++ ")")

/-- A file error from an exception. -/
def FileError.ofException : IO.Error → FileError
  | .alreadyExists _ code details => ofCode code details
  | .otherError code details => ofCode code details
  | .resourceBusy code details => ofCode code details
  | .resourceVanished code details => ofCode code details
  | .unsupportedOperation code details => ofCode code details
  | .hardwareFault code details => ofCode code details
  | .unsatisfiedConstraints code details => ofCode code details
  | .illegalOperation code details => ofCode code details
  | .protocolError code details => ofCode code details
  | .timeExpired code details => ofCode code details
  | .interrupted _ code details => ofCode code details
  | .noFileOrDirectory _ code details => ofCode code details
  | .invalidArgument _ code details => ofCode code details
  | .permissionDenied _ code details => ofCode code details
  | .resourceExhausted _ code details => ofCode code details
  | .inappropriateType _ code details => ofCode code details
  | .noSuchThing _ code details => ofCode code details
  | .unexpectedEof => .other "unexpected end of file"
  | .userError message => .other message

/-- The bytes of an open file. -/
def readHandle (handle : IO.FS.Handle) : IO (Except ReadError (List UInt8)) := do
  try
    return .ok (← handle.readBinToEnd).toList
  catch error =>
    return .error (.reading (.ofException error))

/-- The bytes of the file at a path. -/
def readBytes (path : String) : IO (Except ReadError (List UInt8)) := do
  try
    readHandle (← IO.FS.Handle.mk path .read)
  catch error =>
    return .error (.opening (.ofException error))

/-- Makes an empty file. -/
def makeFile (path : String) : IO (Except FileError Unit) := do
  try
    IO.FS.writeFile path ""
    return .ok ()
  catch error =>
    return .error (.ofException error)

/-- The directory that a path denotes. -/
def findDirectory (path : String) : IO (Except FileError String) := do
  try
    let found ← IO.FS.realPath path
    return if ← found.isDir then .ok found.toString else .error .notADirectory
  catch error =>
    return .error (.ofException error)

/-- The files of the system. The state is the directory that was entered last. -/
def systemFiles : FileSystem (StateT String IO) where
  read path := do
    readBytes (Path.join (← get) path)
  create path := do
    makeFile (Path.join (← get) path)
  enter path := do
    match ← findDirectory (Path.join (← get) path) with
    | .error error => return .error error
    | .ok directory =>
      set directory
      return .ok ()

/-! ## The prompt -/

/-- Prints texts at once. -/
def print (texts : List String) : IO Unit := do
  let output ← IO.getStdout
  output.putStr (String.join texts)
  output.flush

/-- The bytes up to the end of a line, after those of `reversed`; nothing at the end of the input. -/
partial def readLine (input : IO.FS.Stream) (reversed : List UInt8) :
    IO (Option (List UInt8)) := do
  match (← input.read 1).toList with
  | [] => return if reversed.isEmpty then none else some reversed.reverse
  | byte :: _ => if byte = 10 then return some reversed.reverse else readLine input (byte :: reversed)

/-- The next line of the input. What is no text ends it. -/
def readTyped : IO (Option String) := do
  try
    return (← readLine (← IO.getStdin) []).bind Text.ofUtf8?
  catch _ =>
    return none

/-- Talks at the prompt until the console quits. -/
partial def converse (console : Console) : IO Console := do
  let showing := console.takeAndShow (.input (← readTyped))
  print showing.texts
  if showing.quits then return showing.console else converse showing.console

/-- Runs a console from its opening to the end of its program. -/
def talk (console : Console) : IO Unit := do
  let opening := console.showReady
  print opening.texts
  let quitting ← if opening.quits then pure opening.console else converse opening.console
  print [printLines (quitting.finish.unshown.map Console.outputLine)]

/-- Prints an error and its causes. -/
def printErrors (errors : List String) : IO Unit :=
  IO.eprintln ("Error: " ++ "\n  caused by: ".intercalate errors)

/-- Runs the program and gives its exit code. -/
def runProgram (arguments : List String) : IO UInt32 := do
  match (← (start systemFiles arguments).run "").1 with
  | .ready console =>
    talk console
    return 0
  | other =>
    let outcome := other.outcome []
    print [outcome.printed]
    unless outcome.errors.isEmpty do
      printErrors outcome.errors
    return outcome.exitCode

end ScriptDebugger

/-- Runs the debugger of the command line. -/
def main (arguments : List String) : IO UInt32 :=
  ScriptDebugger.runProgram arguments
