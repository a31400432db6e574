import ScriptDebugger.Expression.Evaluate

/-!
# Syntax trees of expressions

The grammar of integer expressions over tokens, with the syntax tree of each derivation, and the
value of a tree.  Operators of one precedence associate to the left, because a sum or a product takes
another of its kind only as its left operand.
-/

namespace ScriptDebugger

/-! ## Trees and their values -/

/-- The syntax tree of an expression.  Parentheses leave no trace in it. -/
inductive Expression where
  | number (value : Nat)
  | identifier (name : String)
  | negation (operand : Expression)
  | binary (operator : Operator) (left right : Expression)
  deriving DecidableEq, Repr

/-- The value of a tree: operands from left to right, each result bounded, up to the first error. -/
def Expression.value (bindings : Variables) : Expression → Except EvalError Int
  | .number value => .ok value
  | .identifier name => bindings.integer name
  | .negation operand => (operand.value bindings).bind fun value => bounded (-value)
  | .binary operator left right =>
    (left.value bindings).bind fun first =>
      (right.value bindings).bind fun second => operator.apply first second

/-! ## The grammar -/

/-- What the grammar derives. -/
inductive Category where
  | expression
  | term
  | unary
  | primary
  deriving DecidableEq, Repr

/-- Whether an operator joins terms to an expression. -/
def Operator.isAdditive : Operator → Bool
  | .add | .subtract => true
  | .multiply | .divide | .remainder => false

/-- `Derives limit category tokens tree` means that the tokens derive from the category, as the text
of the tree, with at most `limit` parentheses open at once. -/
inductive Derives : Nat → Category → List Token → Expression → Prop
  | number (limit value : Nat) :
      Derives limit .primary [.number value] (.number value)
  | identifier (limit : Nat) (name : String) :
      Derives limit .primary [.identifier name] (.identifier name)
  | group {limit : Nat} {tokens : List Token} {tree : Expression} :
      Derives limit .expression tokens tree →
      Derives (limit + 1) .primary (.opening :: (tokens ++ [.closing])) tree
  | primary {limit : Nat} {tokens : List Token} {tree : Expression} :
      Derives limit .primary tokens tree →
      Derives limit .unary tokens tree
  | negation {limit : Nat} {tokens : List Token} {tree : Expression} :
      Derives limit .unary tokens tree →
      Derives limit .unary (.operator .subtract :: tokens) (.negation tree)
  | unary {limit : Nat} {tokens : List Token} {tree : Expression} :
      Derives limit .unary tokens tree →
      Derives limit .term tokens tree
  | product {limit : Nat} {first second : List Token} {left right : Expression}
      {operator : Operator} :
      Derives limit .term first left →
      operator.isAdditive = false →
      Derives limit .unary second right →
      Derives limit .term (first ++ .operator operator :: second) (.binary operator left right)
  | term {limit : Nat} {tokens : List Token} {tree : Expression} :
      Derives limit .term tokens tree →
      Derives limit .expression tokens tree
  | sum {limit : Nat} {first second : List Token} {left right : Expression}
      {operator : Operator} :
      Derives limit .expression first left →
      operator.isAdditive = true →
      Derives limit .term second right →
      Derives limit .expression (first ++ .operator operator :: second)
        (.binary operator left right)

theorem Operator.precedence_of_isAdditive
    {operator : Operator} (additive : operator.isAdditive = true) :
    operator.precedence = 10 := by
  cases operator <;> simp_all [Operator.isAdditive, Operator.precedence]

theorem Operator.precedence_of_not_isAdditive
    {operator : Operator} (multiplicative : operator.isAdditive = false) :
    operator.precedence = 20 := by
  cases operator <;> simp_all [Operator.isAdditive, Operator.precedence]

/-- A primary never starts with a minus sign, so the signs before it can be told apart from it. -/
theorem Derives.primary_head
    {limit : Nat} {tokens : List Token} {tree : Expression}
    (derivation : Derives limit .primary tokens tree) :
    ∃ first rest, tokens = first :: rest ∧ first ≠ .operator .subtract := by
  cases derivation with
  | number _ value => exact ⟨.number value, [], rfl, by simp⟩
  | identifier _ name => exact ⟨.identifier name, [], rfl, by simp⟩
  | group inner => exact ⟨.opening, _, rfl, by simp⟩

end ScriptDebugger
