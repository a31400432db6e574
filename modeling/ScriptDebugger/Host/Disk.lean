import ScriptDebugger.Host.FileError
import ScriptDebugger.Text.Parts

/-!
# A disk

Files and directories in a tree, and the directory that relative paths start from. A path is read name
by name: `.` and an empty name stay, `..` goes up, and every name but the last has to be a directory.
-/

namespace ScriptDebugger

/-- The names from the root of a tree down to a file or directory. -/
abbrev Place := List String

/-- What stands at a place. -/
inductive Entry where
  | directory
  | file (bytes : List UInt8)
  deriving DecidableEq, Repr

/-- A tree of files. Of several entries for one place the first counts. -/
structure Disk where
  entries : List (Place × Entry)
  workingDirectory : Place

namespace Disk

/-- What stands at a place; the root is a directory. -/
def entry? (disk : Disk) : Place → Option Entry
  | [] => some .directory
  | place => disk.entries.lookup place

/-- The names of a path. -/
def names (path : String) : List String :=
  (Text.fields '/' path.toList).map String.ofList

/-- The place from which the names of a path are followed. -/
def start (disk : Disk) (path : String) : Place :=
  if path.toList.head? = some '/' then [] else disk.workingDirectory

/-- The most bytes of one name. -/
def longestName : Nat :=
  255

/-- The most bytes of a path. -/
def longestPath : Nat :=
  4095

/-- Follows names from a place. -/
def walk (disk : Disk) : Place → List String → Except FileError Place
  | place, [] => .ok place
  | place, name :: rest =>
    match disk.entry? place with
    | none => .error .notFound
    | some (.file _) => .error .notADirectory
    | some .directory =>
      if longestName < name.utf8ByteSize then .error .nameTooLong
      else if name = "" ∨ name = "." then walk disk place rest
      else if name = ".." then walk disk place.dropLast rest
      else walk disk (place ++ [name]) rest

/-- Checks what can be said of a path without looking at the disk. -/
def checkPath (path : String) : Except FileError Unit :=
  if path.toList.contains '\x00' then .error .holdsNul
  else if path = "" then .error .notFound
  else if longestPath < path.utf8ByteSize then .error .nameTooLong
  else .ok ()

/-- The place that a path denotes, whether something stands there or not. -/
def locate (disk : Disk) (path : String) : Except FileError Place :=
  match checkPath path with
  | .error error => .error error
  | .ok () => disk.walk (disk.start path) (names path)

/-- What a path denotes. -/
def find (disk : Disk) (path : String) : Except FileError (Place × Entry) :=
  match disk.locate path with
  | .error error => .error error
  | .ok place =>
    match disk.entry? place with
    | none => .error .notFound
    | some entry => .ok (place, entry)

/-- The bytes of a file. A directory can be opened, but not read. -/
def read (disk : Disk) (path : String) : Except ReadError (List UInt8) :=
  match disk.find path with
  | .error error => .error (.opening error)
  | .ok (_, .directory) => .error (.reading .isADirectory)
  | .ok (_, .file bytes) => .ok bytes

/-- The place where a path makes a file. A path that can only denote a directory makes none. -/
def newPlace (disk : Disk) (path : String) : Except FileError Place :=
  match checkPath path with
  | .error error => .error error
  | .ok () =>
    match (names path).reverse.dropWhile (· = "") with
    | [] => .error .isADirectory
    | name :: parents =>
      match disk.walk (disk.start path) parents.reverse with
      | .error error => .error error
      | .ok parent =>
        match disk.entry? parent with
        | none => .error .notFound
        | some (.file _) => .error .notADirectory
        | some .directory =>
          if name = "." ∨ name = ".." ∨ (names path).getLast? = some "" then
            .error .isADirectory
          else disk.walk parent [name]

/-- Makes an empty file, in place of a file that was there before. -/
def create (disk : Disk) (path : String) : Except FileError Disk :=
  match disk.newPlace path with
  | .error error => .error error
  | .ok place =>
    match disk.entry? place with
    | some .directory => .error .isADirectory
    | _ => .ok { disk with entries := (place, .file []) :: disk.entries }

/-- Makes a directory the one that relative paths start from. -/
def enter (disk : Disk) (path : String) : Except FileError Disk :=
  match disk.find path with
  | .error error => .error error
  | .ok (_, .file _) => .error .notADirectory
  | .ok (place, .directory) => .ok { disk with workingDirectory := place }

/-- The disk with an entry at a path below the working directory, and the directories above it. -/
def add (disk : Disk) (path : String) (entry : Entry) : Disk :=
  let below := (names path).filter fun name => name ≠ "" ∧ name ≠ "."
  let parents := (List.range below.length).map fun count =>
    (disk.workingDirectory ++ below.take count, Entry.directory)
  { disk with entries := (disk.workingDirectory ++ below, entry) :: (parents ++ disk.entries) }

end Disk

end ScriptDebugger
