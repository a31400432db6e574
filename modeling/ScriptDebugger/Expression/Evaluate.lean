import ScriptDebugger.Expression.Scan
import ScriptDebugger.Variables

/-!
# Evaluating an expression

An expression is evaluated while it is read, from left to right, so its first fault decides the error
whatever follows. Operators of one precedence associate to the left, and a run of minus signs before
an operand negates it. All values stay between the least and the greatest signed integer.
-/

namespace ScriptDebugger

/-! ## Bounded arithmetic -/

/-- A value, or an overflow if it is out of the range of signed integers. -/
def bounded (value : Int) : Except EvalError Int :=
  if Text.leastInteger ≤ value ∧ value ≤ Text.greatestInteger then .ok value
  else .error .overflow

/-- The value of an operator. Division truncates toward zero, and a remainder overflows with the
quotient that belongs to it. -/
def Operator.apply (operator : Operator) (left right : Int) : Except EvalError Int :=
  match operator with
  | .add => bounded (left + right)
  | .subtract => bounded (left - right)
  | .multiply => bounded (left * right)
  | .divide => if right = 0 then .error .divisionByZero else bounded (left.tdiv right)
  | .remainder =>
    if right = 0 then .error .divisionByZero
    else (bounded (left.tdiv right)).map fun _ => left.tmod right

/-- Negates a value a number of times. -/
def negate : Nat → Int → Except EvalError Int
  | 0, value => .ok value
  | times + 1, value =>
    match bounded (-value) with
    | .ok negated => negate times negated
    | .error error => .error error

/-- The integer that a variable holds, blanks around it ignored. -/
def Variables.integer (bindings : Variables) (name : String) : Except EvalError Int :=
  match bindings.get? name with
  | none => .error (.unknownVariable name)
  | some value =>
    match Text.readInteger (Text.trim value) with
    | .ok integer => .ok integer
    | .error _ => .error (.notANumber name value)

/-! ## Reading operands and operators -/

/-- How many parentheses may be open at once. -/
def maxDepth : Nat :=
  256

/-- The lexemes left of a list of `size`, of which at least one was read. -/
abbrev Remaining (size : Nat) :=
  { rest : List Lexeme // rest.length < size }

/-- Whether a lexeme is a minus sign. -/
def Lexeme.isMinus (lexeme : Lexeme) : Bool :=
  lexeme.token = .operator .subtract

mutual

/-- Evaluates an operand: a number, a variable or an expression in parentheses. -/
def evaluateOperand (bindings : Variables) (depth : Nat) (lexemes : List Lexeme) :
    Except EvalError (Int × Remaining lexemes.length) :=
  match lexemes with
  | [] => .error .unexpectedEnd
  | ⟨offset, token⟩ :: rest =>
    match token with
    | .number value => .ok (value, ⟨rest, Nat.lt_succ_self _⟩)
    | .identifier name =>
      match bindings.integer name with
      | .ok value => .ok (value, ⟨rest, Nat.lt_succ_self _⟩)
      | .error error => .error error
    | .opening =>
      if depth = maxDepth then .error (.tooDeep offset)
      else
        match evaluateChain bindings (depth + 1) 0 rest with
        | .error error => .error error
        | .ok (_, ⟨[], _⟩) => .error .unexpectedEnd
        | .ok (value, ⟨⟨_, .closing⟩ :: after, shorter⟩) =>
          .ok (value, ⟨after, Nat.lt_trans (Nat.lt_of_succ_lt shorter) (Nat.lt_succ_self _)⟩)
        | .ok (_, ⟨⟨place, found⟩ :: _, _⟩) => .error (.unexpectedToken found place)
    | found => .error (.unexpectedToken found offset)
termination_by (lexemes.length, 0)

/-- Evaluates an operand after any number of minus signs. -/
def evaluateSigned (bindings : Variables) (depth : Nat) (lexemes : List Lexeme) :
    Except EvalError (Int × Remaining lexemes.length) :=
  have shorter : (lexemes.dropWhile Lexeme.isMinus).length ≤ lexemes.length :=
    (List.dropWhile_sublist _).length_le
  match evaluateOperand bindings depth (lexemes.dropWhile Lexeme.isMinus) with
  | .error error => .error error
  | .ok (operand, ⟨rest, left⟩) =>
    match negate (lexemes.takeWhile Lexeme.isMinus).length operand with
    | .error error => .error error
    | .ok value => .ok (value, ⟨rest, Nat.lt_of_lt_of_le left shorter⟩)
termination_by (lexemes.length, 1)
decreasing_by
  rcases Nat.lt_or_eq_of_le shorter with less | same
  · exact Prod.Lex.left _ _ less
  · rw [same]
    exact Prod.Lex.right _ Nat.zero_lt_one

/-- Evaluates operands joined by operators of at least the precedence `floor`. -/
def evaluateChain (bindings : Variables) (depth floor : Nat) (lexemes : List Lexeme) :
    Except EvalError (Int × Remaining lexemes.length) :=
  match evaluateSigned bindings depth lexemes with
  | .error error => .error error
  | .ok (left, ⟨rest, shorter⟩) =>
    evaluateOperators bindings depth floor lexemes.length left rest shorter
termination_by (lexemes.length, 2)

/-- Applies operators of at least the precedence `floor` to `left` and the operands that follow. -/
def evaluateOperators (bindings : Variables) (depth floor size : Nat) (left : Int)
    (lexemes : List Lexeme) (fits : lexemes.length < size) :
    Except EvalError (Int × Remaining size) :=
  match lexemes with
  | ⟨offset, .operator operator⟩ :: rest =>
    if operator.precedence < floor then
      .ok (left, ⟨⟨offset, .operator operator⟩ :: rest, fits⟩)
    else
      match evaluateChain bindings depth (operator.precedence + 1) rest with
      | .error error => .error error
      | .ok (right, ⟨after, shorter⟩) =>
        match operator.apply left right with
        | .error error => .error error
        | .ok value =>
          evaluateOperators bindings depth floor size value after
            (Nat.lt_trans shorter (Nat.lt_of_succ_lt fits))
  | lexemes => .ok (left, ⟨lexemes, fits⟩)
termination_by (lexemes.length, 3)

end

/-! ## Whole expressions -/

/-- Evaluates all the lexemes of an expression. -/
def evaluateLexemes (bindings : Variables) (lexemes : List Lexeme) : Except EvalError Int :=
  if lexemes.isEmpty then .error .empty
  else
    match evaluateChain bindings 0 0 lexemes with
    | .error error => .error error
    | .ok (value, ⟨[], _⟩) => .ok value
    | .ok (_, ⟨⟨offset, found⟩ :: _, _⟩) => .error (.unexpectedToken found offset)

/-- Evaluates an integer expression over variables. -/
def evaluate (expression : String) (bindings : Variables) : Except EvalError Int :=
  match scan expression with
  | .error error => .error error
  | .ok lexemes => evaluateLexemes bindings lexemes

end ScriptDebugger
