import ScriptDebugger.Text.Integer

/-!
# Markers

A marker stands for a place in the source. It carries integer attributes, one of which may be the
number of the line.
-/

namespace ScriptDebugger

/-- A place in the source, given by integer attributes; of several values for one attribute the first
counts. -/
structure Marker where
  attributes : List (String × Int)
  deriving DecidableEq, Repr

namespace Marker

/-- The attribute that holds the line number. -/
def lineNumber : String :=
  "lineNumber"

/-- The value of the line number attribute at a line that is not known. -/
def unknownLine : Int :=
  -1

/-- A marker without attributes. -/
def unknown : Marker :=
  ⟨[]⟩

/-- The marker with an attribute set, in place of any value that it had. -/
def set (marker : Marker) (name : String) (value : Int) : Marker :=
  ⟨(name, value) :: marker.attributes⟩

/-- The value of an attribute, or a default if it is not set. -/
def getD (marker : Marker) (name : String) (default : Int) : Int :=
  (marker.attributes.lookup name).getD default

/-- The marker of a line. A line beyond the greatest integer is not known. -/
def atLine (line : Nat) : Marker :=
  unknown.set lineNumber (if line ≤ Text.greatestInteger then line else unknownLine)

/-- The line of a marker, if its line number is positive. -/
def line? (marker : Marker) : Option Nat :=
  match marker.getD lineNumber unknownLine with
  | .ofNat 0 => none
  | .ofNat line => some line
  | .negSucc _ => none

end Marker

end ScriptDebugger
