import ScriptDebugger.Text.Parts

/-!
# Statements

What a line of a script says.
-/

namespace ScriptDebugger

/-- A line of a script. -/
inductive Statement where
  /-- A blank line or a comment. -/
  | nothing
  /-- Binds a variable to the coerced value. -/
  | assign (name value : String)
  /-- Writes the text with its references replaced. -/
  | output (text : String)
  deriving DecidableEq, Repr

/-- The statement of a line without blanks at its ends: a comment starts with `#`, and an assignment
has an identifier before its first `=`. -/
def Statement.ofTrimmed : List Char → Statement
  | [] => .nothing
  | '#' :: _ => .nothing
  | characters =>
    match characters.dropWhile (· != '=') with
    | [] => .output (String.ofList characters)
    | _ :: value =>
      let name := Text.trimChars (characters.takeWhile (· != '='))
      if Text.isIdentifierChars name then .assign (String.ofList name) (String.ofList value)
      else .output (String.ofList characters)

/-- The statement that a line writes. -/
def Statement.ofLine (line : String) : Statement :=
  Statement.ofTrimmed (Text.trimChars line.toList)

end ScriptDebugger
