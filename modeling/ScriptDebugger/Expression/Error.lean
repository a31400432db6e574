import ScriptDebugger.Expression.Token

/-!
# Errors of expressions
-/

namespace ScriptDebugger

/-- Why an expression has no value. -/
inductive EvalError where
  /-- There is nothing to evaluate. -/
  | empty
  /-- A character starts no token. -/
  | unexpectedCharacter (character : Char) (offset : Nat)
  /-- A token stands where it is not allowed. -/
  | unexpectedToken (found : Token) (offset : Nat)
  /-- The expression ends where an operand or a closing parenthesis is due. -/
  | unexpectedEnd
  /-- A parenthesis opens inside as many open ones as are accepted. -/
  | tooDeep (offset : Nat)
  /-- A number is beyond the greatest integer. -/
  | invalidNumber (literal : String)
  | unknownVariable (name : String)
  /-- The text of a variable is no integer. -/
  | notANumber (name value : String)
  | divisionByZero
  | overflow
  deriving DecidableEq, Repr

/-- The wording of an evaluation error. -/
def EvalError.message : EvalError → String
  | .empty => "empty expression"
  | .unexpectedCharacter character offset =>
    "unexpected character " ++ Text.quoteChar character ++ " at offset " ++ Text.decimal offset
  | .unexpectedToken found offset =>
    "unexpected " ++ found.describe ++ " at offset " ++ Text.decimal offset
  | .unexpectedEnd => "unexpected end of expression"
  | .tooDeep offset => "expression nested too deeply at offset " ++ Text.decimal offset
  | .invalidNumber literal => "invalid number literal " ++ Text.quote literal
  | .unknownVariable name => "unknown variable " ++ Text.quote name
  | .notANumber name value =>
    "variable " ++ Text.quote name ++ " is not a number: " ++ Text.quote value
  | .divisionByZero => "division by zero"
  | .overflow => "arithmetic overflow"

end ScriptDebugger
