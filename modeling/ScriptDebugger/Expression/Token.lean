import ScriptDebugger.Text.Integer
import ScriptDebugger.Text.Quoted

/-!
# Tokens

The words of an integer expression.
-/

namespace ScriptDebugger

/-- The binary operators. -/
inductive Operator where
  | add
  | subtract
  | multiply
  | divide
  | remainder
  deriving DecidableEq, Repr

/-- The character that writes an operator. -/
def Operator.character : Operator → Char
  | .add => '+'
  | .subtract => '-'
  | .multiply => '*'
  | .divide => '/'
  | .remainder => '%'

/-- How tightly an operator binds its operands. -/
def Operator.precedence : Operator → Nat
  | .add => 10
  | .subtract => 10
  | .multiply => 20
  | .divide => 20
  | .remainder => 20

/-- A word of an expression. The minus sign of a negation is the operator `subtract`. -/
inductive Token where
  | number (value : Nat)
  | identifier (name : String)
  | operator (sign : Operator)
  | opening
  | closing
  deriving DecidableEq, Repr

/-- The text that writes a token. -/
def Token.text : Token → String
  | .number value => String.ofList (Nat.toDigits 10 value)
  | .identifier name => name
  | .operator sign => String.singleton sign.character
  | .opening => "("
  | .closing => ")"

/-- How messages speak of a token. -/
def Token.describe : Token → String
  | .number value => "number " ++ (Token.number value).text
  | .identifier name => "identifier " ++ Text.quote name
  | token => "'" ++ token.text ++ "'"

/-- The token that a single character writes. -/
def Token.ofCharacter? : Char → Option Token
  | '+' => some (.operator .add)
  | '-' => some (.operator .subtract)
  | '*' => some (.operator .multiply)
  | '/' => some (.operator .divide)
  | '%' => some (.operator .remainder)
  | '(' => some .opening
  | ')' => some .closing
  | _ => none

/-- A token and the byte offset at which its text starts. -/
structure Lexeme where
  offset : Nat
  token : Token
  deriving DecidableEq, Repr

end ScriptDebugger
