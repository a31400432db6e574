import ScriptDebugger.Proofs.Expression.Grammar

/-!
# Readings without bounds

The readers of operands and operators carry a bound on the lexemes that they leave, which makes them
terminate.  Here the bound is dropped, and each reader is described by its equations.
-/

namespace ScriptDebugger

/-- A result, with what is left of the lexemes but without its bound. -/
def plain {size : Nat} (result : Except EvalError (Int × Remaining size)) :
    Except EvalError (Int × List Lexeme) :=
  result.map fun reading => (reading.1, reading.2.val)

/-- The value of the operand at the start of the lexemes and the lexemes after it. -/
def readOperand (bindings : Variables) (depth : Nat) (lexemes : List Lexeme) :
    Except EvalError (Int × List Lexeme) :=
  plain (evaluateOperand bindings depth lexemes)

/-- The value of the operand with its signs and the lexemes after it. -/
def readSigned (bindings : Variables) (depth : Nat) (lexemes : List Lexeme) :
    Except EvalError (Int × List Lexeme) :=
  plain (evaluateSigned bindings depth lexemes)

/-- The value of operands joined by operators of at least the precedence `floor`. -/
def readChain (bindings : Variables) (depth floor : Nat) (lexemes : List Lexeme) :
    Except EvalError (Int × List Lexeme) :=
  plain (evaluateChain bindings depth floor lexemes)

/-- The value of `left` with the operators of at least the precedence `floor` that follow. -/
def readOperators (bindings : Variables) (depth floor : Nat) (left : Int)
    (lexemes : List Lexeme) : Except EvalError (Int × List Lexeme) :=
  plain (evaluateOperators bindings depth floor (lexemes.length + 1) left lexemes
    (Nat.lt_add_one lexemes.length))

/-- What an expression in parentheses leaves, if its parenthesis is closed. -/
def closeGroup : Int × List Lexeme → Except EvalError (Int × List Lexeme)
  | (_, []) => .error .unexpectedEnd
  | (value, ⟨_, .closing⟩ :: after) => .ok (value, after)
  | (_, ⟨offset, found⟩ :: _) => .error (.unexpectedToken found offset)

/-! ## Operands -/

@[simp]
theorem readOperand_nil (bindings : Variables) (depth : Nat) :
    readOperand bindings depth [] = .error .unexpectedEnd := by
  simp [readOperand, evaluateOperand, plain, Except.map]

@[simp]
theorem readOperand_number
    (bindings : Variables) (depth offset value : Nat) (rest : List Lexeme) :
    readOperand bindings depth (⟨offset, .number value⟩ :: rest) = .ok (↑value, rest) := by
  simp [readOperand, evaluateOperand, plain, Except.map]

@[simp]
theorem readOperand_identifier
    (bindings : Variables) (depth offset : Nat) (name : String) (rest : List Lexeme) :
    readOperand bindings depth (⟨offset, .identifier name⟩ :: rest) =
      (bindings.integer name).map fun value => (value, rest) := by
  simp only [readOperand, evaluateOperand]
  cases bindings.integer name <;> rfl

@[simp]
theorem readOperand_operator
    (bindings : Variables) (depth offset : Nat) (operator : Operator) (rest : List Lexeme) :
    readOperand bindings depth (⟨offset, .operator operator⟩ :: rest) =
      .error (.unexpectedToken (.operator operator) offset) := by
  simp [readOperand, evaluateOperand, plain, Except.map]

@[simp]
theorem readOperand_closing
    (bindings : Variables) (depth offset : Nat) (rest : List Lexeme) :
    readOperand bindings depth (⟨offset, .closing⟩ :: rest) =
      .error (.unexpectedToken .closing offset) := by
  simp [readOperand, evaluateOperand, plain, Except.map]

theorem readOperand_opening
    (bindings : Variables) (depth offset : Nat) (rest : List Lexeme) :
    readOperand bindings depth (⟨offset, .opening⟩ :: rest) =
      if depth = maxDepth then .error (.tooDeep offset)
      else (readChain bindings (depth + 1) 0 rest).bind closeGroup := by
  simp only [readOperand, readChain, evaluateOperand]
  split
  · rfl
  · rcases evaluateChain bindings (depth + 1) 0 rest with error | ⟨value, after, shorter⟩
    · rfl
    · rcases after with _ | ⟨⟨place, found⟩, after⟩
      · rfl
      · cases found <;> rfl

/-! ## Signs, operators and chains -/

theorem readSigned_eq
    (bindings : Variables) (depth : Nat) (lexemes : List Lexeme) :
    readSigned bindings depth lexemes =
      (readOperand bindings depth (lexemes.dropWhile Lexeme.isMinus)).bind fun reading =>
        (negate (lexemes.takeWhile Lexeme.isMinus).length reading.1).map fun value =>
          (value, reading.2) := by
  simp only [readSigned, readOperand, evaluateSigned]
  rcases evaluateOperand bindings depth (lexemes.dropWhile Lexeme.isMinus) with
    error | ⟨operand, rest, shorter⟩
  · rfl
  · simp only [plain, Except.map, Except.bind]
    cases negate (lexemes.takeWhile Lexeme.isMinus).length operand <;> rfl

/-- Operators of the precedence `floor` or above do not go on at the start of the lexemes. -/
def EndsChain (floor : Nat) (lexemes : List Lexeme) : Prop :=
  ∀ offset operator rest, lexemes = ⟨offset, .operator operator⟩ :: rest →
    operator.precedence < floor

theorem endsChain_or_operator (floor : Nat) (lexemes : List Lexeme) :
    EndsChain floor lexemes ∨
      ∃ offset operator rest,
        lexemes = ⟨offset, .operator operator⟩ :: rest ∧ floor ≤ operator.precedence := by
  by_cases ends : EndsChain floor lexemes
  · exact Or.inl ends
  · simp only [EndsChain, Classical.not_forall, Nat.not_lt] at ends
    obtain ⟨offset, operator, rest, shape, binds⟩ := ends
    exact Or.inr ⟨offset, operator, rest, shape, binds⟩

theorem evaluateOperators_of_endsChain
    {bindings : Variables} {depth floor size : Nat} {left : Int} {lexemes : List Lexeme}
    {fits : lexemes.length < size} (ends : EndsChain floor lexemes) :
    evaluateOperators bindings depth floor size left lexemes fits =
      .ok (left, ⟨lexemes, fits⟩) := by
  rcases lexemes with _ | ⟨⟨offset, token⟩, rest⟩
  · rw [evaluateOperators]
    simp
  · cases token with
    | operator operator =>
        have below : operator.precedence < floor := ends offset operator rest rfl
        simp only [evaluateOperators, if_pos below]
    | number | identifier | opening | closing =>
        rw [evaluateOperators]
        simp

private theorem plain_evaluateOperators_congr
    (bindings : Variables) (depth floor bound : Nat) :
    ∀ (lexemes : List Lexeme) (left : Int) (size other : Nat)
      (fits : lexemes.length < size) (alsoFits : lexemes.length < other),
      lexemes.length < bound →
      plain (evaluateOperators bindings depth floor size left lexemes fits) =
        plain (evaluateOperators bindings depth floor other left lexemes alsoFits) := by
  induction bound with
  | zero =>
      intro lexemes _ _ _ _ _ impossible
      exact absurd impossible (Nat.not_lt_zero _)
  | succ bound inductionHypothesis =>
      intro lexemes left size other fits alsoFits short
      rcases endsChain_or_operator floor lexemes with ends | ⟨offset, operator, rest, rfl, binds⟩
      · rw [evaluateOperators_of_endsChain ends, evaluateOperators_of_endsChain ends]
        rfl
      · simp only [evaluateOperators, if_neg (Nat.not_lt.mpr binds)]
        rcases evaluateChain bindings depth (operator.precedence + 1) rest with
          error | ⟨right, after, shorter⟩
        · rfl
        · dsimp only
          cases operator.apply left right with
          | error error => rfl
          | ok value =>
              exact inductionHypothesis after value size other _ _
                (Nat.lt_of_lt_of_le shorter (Nat.le_of_lt_succ (Nat.lt_of_succ_lt short)))

/-- The bound that the reader of operators carries along does not matter. -/
theorem plain_evaluateOperators
    (bindings : Variables) (depth floor size : Nat) (left : Int) (lexemes : List Lexeme)
    (fits : lexemes.length < size) :
    plain (evaluateOperators bindings depth floor size left lexemes fits) =
      readOperators bindings depth floor left lexemes :=
  plain_evaluateOperators_congr bindings depth floor _ lexemes left size _ fits _
    (Nat.lt_succ_self _)

theorem readChain_eq
    (bindings : Variables) (depth floor : Nat) (lexemes : List Lexeme) :
    readChain bindings depth floor lexemes =
      (readSigned bindings depth lexemes).bind fun reading =>
        readOperators bindings depth floor reading.1 reading.2 := by
  simp only [readChain, readSigned, evaluateChain]
  rcases evaluateSigned bindings depth lexemes with error | ⟨left, rest, shorter⟩
  · rfl
  · exact plain_evaluateOperators bindings depth floor _ left rest shorter

theorem readOperators_of_endsChain
    {bindings : Variables} {depth floor : Nat} {left : Int} {lexemes : List Lexeme}
    (ends : EndsChain floor lexemes) :
    readOperators bindings depth floor left lexemes = .ok (left, lexemes) := by
  rw [readOperators, evaluateOperators_of_endsChain ends]
  rfl

theorem readOperators_operator
    {bindings : Variables} {depth floor offset : Nat} {left : Int} {operator : Operator}
    {rest : List Lexeme} (binds : floor ≤ operator.precedence) :
    readOperators bindings depth floor left (⟨offset, .operator operator⟩ :: rest) =
      (readChain bindings depth (operator.precedence + 1) rest).bind fun reading =>
        (operator.apply left reading.1).bind fun value =>
          readOperators bindings depth floor value reading.2 := by
  simp only [readOperators, readChain, evaluateOperators, if_neg (Nat.not_lt.mpr binds)]
  rcases evaluateChain bindings depth (operator.precedence + 1) rest with
    error | ⟨right, after, shorter⟩
  · rfl
  · simp only [plain, Except.map, Except.bind]
    cases operator.apply left right with
    | error error => rfl
    | ok value => exact plain_evaluateOperators bindings depth floor _ value after _

/-! ## Whole expressions -/

theorem evaluateLexemes_eq
    {bindings : Variables} {lexemes : List Lexeme} (nonempty : lexemes ≠ []) :
    evaluateLexemes bindings lexemes =
      (readChain bindings 0 0 lexemes).bind fun
        | (value, []) => .ok value
        | (_, ⟨offset, found⟩ :: _) => .error (.unexpectedToken found offset) := by
  rw [evaluateLexemes, if_neg (by simpa using nonempty), readChain]
  rcases evaluateChain bindings 0 0 lexemes with error | ⟨value, rest, shorter⟩
  · rfl
  · cases rest <;> rfl

end ScriptDebugger
