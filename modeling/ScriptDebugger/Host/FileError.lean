/-!
# Errors of files
-/

namespace ScriptDebugger

/-- Why a file cannot be opened, read or made. -/
inductive FileError where
  | notFound
  | notADirectory
  | isADirectory
  | nameTooLong
  /-- A path has a character that no name can have. -/
  | holdsNul
  /-- The bytes of a file are no text. -/
  | notText
  /-- Any other error of the system, in its own words. -/
  | other (message : String)
  deriving DecidableEq, Repr

/-- The wording of a file error. -/
def FileError.message : FileError → String
  | .notFound => "No such file or directory (os error 2)"
  | .notADirectory => "Not a directory (os error 20)"
  | .isADirectory => "Is a directory (os error 21)"
  | .nameTooLong => "File name too long (os error 36)"
  | .holdsNul => "file name contained an unexpected NUL byte"
  | .notText => "stream did not contain valid UTF-8"
  | .other message => message

/-- Why the bytes of a file are not to be had: it cannot be opened, or it can and is not to be read. -/
inductive ReadError where
  | opening (cause : FileError)
  | reading (cause : FileError)
  deriving DecidableEq, Repr

/-- What is wrong with the file, whichever step showed it. -/
def ReadError.cause : ReadError → FileError
  | .opening cause => cause
  | .reading cause => cause

end ScriptDebugger
