import ScriptDebugger.Text.Parts

/-!
# Paths

A path is a text whose names are divided by slashes. It is kept as it is written: repeated slashes and
names such as `.` and `..` stay.
-/

namespace ScriptDebugger.Path

/-- Whether a path does not depend on a directory. -/
def isAbsolute (path : String) : Bool :=
  path.toList.head? == some '/'

/-- A path taken from a directory. -/
def join (directory path : String) : String :=
  if isAbsolute path then path
  else if directory = "" then path
  else if directory.toList.getLast? = some '/' then directory ++ path
  else directory ++ "/" ++ path

/-- Whether a name stays in its directory. -/
def staysInPlace (name : List Char) : Bool :=
  name.isEmpty || name == ['.']

/-- Leaves out the last names as long as they stay in their directory. The first name is never left
out: it says where the path starts. -/
def dropStaying : List (List Char) → List (List Char)
  | [] => []
  | first :: rest => first :: (rest.reverse.dropWhile staysInPlace).reverse

/-- The names of a path with slashes between them. -/
def ofNames : List (List Char) → String
  | [[]] => "/"
  | names => String.ofList (['/'].intercalate names)

/-- The directory that a path is in, by its text alone: empty for a single name, and nothing for a path
that names nothing. -/
def parent? (path : String) : Option String :=
  match dropStaying (Text.fields '/' path.toList) with
  | [] => none
  | [first] => if first.isEmpty then none else some ""
  | first :: rest => some (ofNames (dropStaying (first :: rest.dropLast)))

/-- The directory that a path is in. -/
def directory (path : String) : String :=
  match parent? path with
  | none => "."
  | some "" => "."
  | some parent => parent

end ScriptDebugger.Path
