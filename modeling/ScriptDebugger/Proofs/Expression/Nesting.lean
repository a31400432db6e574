import Mathlib.Data.List.Chain
import ScriptDebugger.Proofs.Expression.Reading

/-!
# Nested activations of the reader of chains

A chain of operands and operators is read by a function that calls itself for each right operand and for each
expression in parentheses.  A right operand is read with a higher floor, and only so many parentheses may be
open, so the number of activations that are nested at once is bounded whatever is read.  A reader that gives
up beyond a number of nested activations never does so if the number is that bound.
-/

namespace ScriptDebugger

/-! ## Activations -/

/-- What the reader of chains is called with. -/
structure Activation where
  depth : Nat
  floor : Nat
  lexemes : List Lexeme

namespace Activation

/-- The result of an activation. -/
abbrev Result (activation : Activation) :=
  Except EvalError (Int × Remaining activation.lexemes.length)

/-- What the reader of chains returns. -/
def result (bindings : Variables) (activation : Activation) : activation.Result :=
  evaluateChain bindings activation.depth activation.floor activation.lexemes

/-- `Stands bindings activation left lexemes` means that the activation comes to stand before the lexemes with
the value `left` for what it has read. -/
inductive Stands (bindings : Variables) (activation : Activation) : Int → List Lexeme → Prop
  | first {left : Int} {lexemes : List Lexeme} :
      readSigned bindings activation.depth activation.lexemes = .ok (left, lexemes) →
      Stands bindings activation left lexemes
  | next {left right value : Int} {offset : Nat} {operator : Operator} {rest after : List Lexeme} :
      Stands bindings activation left (⟨offset, .operator operator⟩ :: rest) →
      activation.floor ≤ operator.precedence →
      readChain bindings activation.depth (operator.precedence + 1) rest = .ok (right, after) →
      operator.apply left right = .ok value →
      Stands bindings activation value after

/-- `Calls bindings activation called` means that the activation calls another one, which is then nested in
it: for an expression in parentheses or for a right operand. -/
inductive Calls (bindings : Variables) (activation : Activation) : Activation → Prop
  | opening {offset : Nat} {rest : List Lexeme} :
      activation.lexemes.dropWhile Lexeme.isMinus = ⟨offset, .opening⟩ :: rest →
      activation.depth ≠ maxDepth →
      Calls bindings activation ⟨activation.depth + 1, 0, rest⟩
  | operator {left : Int} {offset : Nat} {operator : Operator} {rest : List Lexeme} :
      Stands bindings activation left (⟨offset, .operator operator⟩ :: rest) →
      activation.floor ≤ operator.precedence →
      Calls bindings activation ⟨activation.depth, operator.precedence + 1, rest⟩

end Activation

/-- Activations that are nested in each other while lexemes are evaluated, from the outermost on. -/
def Nested (bindings : Variables) (lexemes : List Lexeme) : List Activation → Prop
  | [] => True
  | outermost :: inner =>
    lexemes ≠ [] ∧ outermost = ⟨0, 0, lexemes⟩ ∧
      List.IsChain (Activation.Calls bindings) (outermost :: inner)

/-! ## Readers that give up -/

theorem length_lt_cons (lexeme : Lexeme) (rest : List Lexeme) : rest.length < (lexeme :: rest).length :=
  Nat.lt_add_one rest.length

section Readers

-- `inner` answers the calls of one activation; without an answer the activation gives up as well.
variable (bindings : Variables)
  (inner : (activation : Activation) → Option activation.Result)

/-- Evaluates an operand, or gives up. -/
def operandWith (depth : Nat) (lexemes : List Lexeme) :
    Option (Except EvalError (Int × Remaining lexemes.length)) :=
  match lexemes with
  | [] => some (.error .unexpectedEnd)
  | ⟨offset, token⟩ :: rest =>
    match token with
    | .number value => some (.ok (value, ⟨rest, length_lt_cons _ rest⟩))
    | .identifier name =>
      some ((bindings.integer name).map fun value => (value, ⟨rest, length_lt_cons _ rest⟩))
    | .opening =>
      if depth = maxDepth then some (.error (.tooDeep offset))
      else
        (inner ⟨depth + 1, 0, rest⟩).map fun
          | .error error => .error error
          | .ok (_, ⟨[], _⟩) => .error .unexpectedEnd
          | .ok (value, ⟨⟨_, .closing⟩ :: after, shorter⟩) =>
            .ok (value, ⟨after, Nat.lt_trans (Nat.lt_of_succ_lt shorter) (length_lt_cons _ rest)⟩)
          | .ok (_, ⟨⟨place, found⟩ :: _, _⟩) => .error (.unexpectedToken found place)
    | found => some (.error (.unexpectedToken found offset))

/-- Evaluates an operand after any number of minus signs, or gives up. -/
def signedWith (depth : Nat) (lexemes : List Lexeme) :
    Option (Except EvalError (Int × Remaining lexemes.length)) :=
  (operandWith bindings inner depth (lexemes.dropWhile Lexeme.isMinus)).map fun result =>
    result.bind fun reading =>
      (negate (lexemes.takeWhile Lexeme.isMinus).length reading.1).map fun value =>
        (value, ⟨reading.2.val,
          Nat.lt_of_lt_of_le reading.2.property (List.dropWhile_sublist _).length_le⟩)

/-- Applies operators of at least the precedence `floor` to `left` and the operands that follow, or gives
up. -/
def operatorsWith (depth floor size : Nat) (left : Int) (lexemes : List Lexeme)
    (fits : lexemes.length < size) : Option (Except EvalError (Int × Remaining size)) :=
  match lexemes with
  | ⟨offset, .operator operator⟩ :: rest =>
    if operator.precedence < floor then
      some (.ok (left, ⟨⟨offset, .operator operator⟩ :: rest, fits⟩))
    else
      match inner ⟨depth, operator.precedence + 1, rest⟩ with
      | none => none
      | some (.error error) => some (.error error)
      | some (.ok (right, ⟨after, shorter⟩)) =>
        match operator.apply left right with
        | .error error => some (.error error)
        | .ok value =>
          operatorsWith depth floor size value after
            (Nat.lt_trans shorter (Nat.lt_of_succ_lt fits))
  | lexemes => some (.ok (left, ⟨lexemes, fits⟩))
termination_by lexemes.length
decreasing_by exact Nat.lt_trans shorter (Nat.lt_add_one _)

/-- One activation of the reader of chains, whose calls `inner` answers. -/
def activate (activation : Activation) : Option activation.Result :=
  match signedWith bindings inner activation.depth activation.lexemes with
  | none => none
  | some (.error error) => some (.error error)
  | some (.ok (left, ⟨rest, shorter⟩)) =>
    operatorsWith inner activation.depth activation.floor activation.lexemes.length left rest shorter

end Readers

/-- Evaluates a chain, but gives up when more than `room` activations are nested. -/
def evaluateChainWithin (bindings : Variables) :
    Nat → (activation : Activation) → Option activation.Result
  | 0, _ => none
  | room + 1, activation => activate bindings (evaluateChainWithin bindings room) activation

/-- Evaluates all the lexemes of an expression, but gives up when more than `room` activations are nested. -/
def evaluateLexemesWithin (room : Nat) (bindings : Variables) (lexemes : List Lexeme) :
    Option (Except EvalError Int) :=
  if lexemes.isEmpty then some (.error .empty)
  else
    (evaluateChainWithin bindings room ⟨0, 0, lexemes⟩).map fun
      | .error error => .error error
      | .ok (value, ⟨[], _⟩) => .ok value
      | .ok (_, ⟨⟨offset, found⟩ :: _, _⟩) => .error (.unexpectedToken found offset)

/-! ## One activation -/

theorem plain_eq_ok
    {size : Nat} {result : Except EvalError (Int × Remaining size)} {value : Int} {rest : List Lexeme} :
    plain result = .ok (value, rest) ↔ ∃ fits, result = .ok (value, ⟨rest, fits⟩) := by
  constructor
  · intro read
    rcases result with error | ⟨first, after, fits⟩
    · cases read
    · cases read
      exact ⟨fits, rfl⟩
  · rintro ⟨fits, rfl⟩
    rfl

/-- Each answer is the result of the activation that was called. -/
def Faithful (bindings : Variables) (inner : (activation : Activation) → Option activation.Result) : Prop :=
  ∀ activation result, inner activation = some result → activation.result bindings = result

section OneActivation

variable {bindings : Variables} {inner : (activation : Activation) → Option activation.Result}

theorem operandWith_eq_none {depth : Nat} {lexemes : List Lexeme} :
    operandWith bindings inner depth lexemes = none ↔
      ∃ offset rest, lexemes = ⟨offset, .opening⟩ :: rest ∧ depth ≠ maxDepth ∧
        inner ⟨depth + 1, 0, rest⟩ = none := by
  rcases lexemes with _ | ⟨⟨offset, token⟩, rest⟩
  · simp [operandWith]
  · cases token with
    | number | operator | closing => simp [operandWith]
    | identifier name =>
        simp [operandWith]
    | opening =>
        by_cases deepest : depth = maxDepth <;> simp [operandWith, deepest]

theorem signedWith_eq_none {depth : Nat} {lexemes : List Lexeme} :
    signedWith bindings inner depth lexemes = none ↔
      operandWith bindings inner depth (lexemes.dropWhile Lexeme.isMinus) = none := by
  simp [signedWith]

variable (faithful : Faithful bindings inner)

include faithful

theorem Faithful.operandWith_eq_some
    {depth : Nat} {lexemes : List Lexeme}
    {result : Except EvalError (Int × Remaining lexemes.length)}
    (answered : operandWith bindings inner depth lexemes = some result) :
    evaluateOperand bindings depth lexemes = result := by
  rcases lexemes with _ | ⟨⟨offset, token⟩, rest⟩
  · simpa [operandWith, evaluateOperand] using answered
  · cases token with
    | number | operator | closing => simpa [operandWith, evaluateOperand] using answered
    | identifier name =>
        simp only [operandWith] at answered
        simp only [evaluateOperand]
        cases integer : bindings.integer name <;> simpa [integer, Except.map] using answered
    | opening =>
        simp only [operandWith] at answered
        simp only [evaluateOperand]
        split
        case isTrue deepest => simpa [deepest] using answered
        case isFalse shallow =>
          rw [if_neg shallow, Option.map_eq_some_iff] at answered
          obtain ⟨called, read, rfl⟩ := answered
          obtain rfl := faithful _ _ read
          simp only [Activation.result]
          rcases evaluateChain bindings (depth + 1) 0 rest with error | ⟨value, after, shorter⟩
          · rfl
          · rcases after with _ | ⟨⟨place, found⟩, after⟩
            · rfl
            · cases found <;> rfl

theorem Faithful.signedWith_eq_some
    {depth : Nat} {lexemes : List Lexeme}
    {result : Except EvalError (Int × Remaining lexemes.length)}
    (answered : signedWith bindings inner depth lexemes = some result) :
    evaluateSigned bindings depth lexemes = result := by
  obtain ⟨operand, read, rfl⟩ := Option.map_eq_some_iff.mp answered
  have evaluated := faithful.operandWith_eq_some read
  rcases operand with error | ⟨value, rest, shorter⟩
  · simp only [evaluateSigned, evaluated, Except.bind]
  · cases negated : negate (lexemes.takeWhile Lexeme.isMinus).length value <;>
      simp only [evaluateSigned, evaluated, negated, Except.bind, Except.map]

theorem Faithful.operatorsWith_eq_some
    {depth floor size : Nat} {left : Int} {lexemes : List Lexeme}
    {fits : lexemes.length < size} {result : Except EvalError (Int × Remaining size)}
    (answered : operatorsWith inner depth floor size left lexemes fits = some result) :
    evaluateOperators bindings depth floor size left lexemes fits = result := by
  fun_induction operatorsWith inner depth floor size left lexemes fits with
  | case1 left offset operator rest fits below =>
      simpa [evaluateOperators, below] using answered
  | case2 => cases answered
  | case3 left offset operator rest fits binds error called =>
      have read : evaluateChain bindings depth (operator.precedence + 1) rest = _ := faithful _ _ called
      simpa [evaluateOperators, binds, read] using answered
  | case4 left offset operator rest fits binds right after shorter called error failed =>
      have read : evaluateChain bindings depth (operator.precedence + 1) rest = _ := faithful _ _ called
      simpa [evaluateOperators, binds, read, failed] using answered
  | case5 left offset operator rest fits binds right after shorter called value applied _
      inductionHypothesis =>
      have read : evaluateChain bindings depth (operator.precedence + 1) rest = _ := faithful _ _ called
      simpa [evaluateOperators, binds, read, applied] using inductionHypothesis answered
  | case6 left lexemes fits other =>
      have ends : EndsChain floor lexemes := by
        rintro offset operator rest rfl
        exact absurd HEq.rfl (other offset operator rest fits rfl)
      rw [evaluateOperators_of_endsChain ends]
      exact Option.some.inj answered

theorem Faithful.activate_eq_some
    {activation : Activation} {result : activation.Result}
    (answered : activate bindings inner activation = some result) :
    activation.result bindings = result := by
  rw [activate] at answered
  rw [Activation.result, evaluateChain]
  split at answered
  · cases answered
  case h_2 error signed =>
    rw [faithful.signedWith_eq_some signed]
    exact Option.some.inj answered
  case h_3 left rest shorter signed =>
    rw [faithful.signedWith_eq_some signed]
    exact faithful.operatorsWith_eq_some answered

/-- The loop over operators gives up only at a call that is not answered. -/
theorem Faithful.exists_call_of_operatorsWith
    {activation : Activation} {size : Nat} {left : Int} {lexemes : List Lexeme}
    {fits : lexemes.length < size}
    (stands : activation.Stands bindings left lexemes)
    (gaveUp : operatorsWith inner activation.depth activation.floor size left lexemes fits = none) :
    ∃ called, activation.Calls bindings called ∧ inner called = none := by
  fun_induction operatorsWith inner activation.depth activation.floor size left lexemes fits with
  | case1 | case3 | case4 | case6 => cases gaveUp
  | case2 left offset operator rest fits binds unanswered =>
      exact ⟨_, .operator stands (Nat.not_lt.mp binds), unanswered⟩
  | case5 left offset operator rest fits binds right after shorter called value applied _
      inductionHypothesis =>
      have read : readChain bindings activation.depth (operator.precedence + 1) rest = .ok (right, after) :=
        plain_eq_ok.mpr ⟨shorter, faithful _ _ called⟩
      exact inductionHypothesis (stands.next (Nat.not_lt.mp binds) read applied) gaveUp

/-- An activation that does not give up comes to every place where the reader itself comes to stand. -/
theorem Faithful.activate_eq_operatorsWith
    {activation : Activation} {left : Int} {lexemes : List Lexeme}
    (stands : activation.Stands bindings left lexemes)
    (answered : activate bindings inner activation ≠ none) :
    ∃ fits, activate bindings inner activation =
      operatorsWith inner activation.depth activation.floor activation.lexemes.length left lexemes fits := by
  induction stands with
  | @first left lexemes read =>
      obtain ⟨fits, evaluated⟩ := plain_eq_ok.mp read
      refine ⟨fits, ?_⟩
      cases signed : signedWith bindings inner activation.depth activation.lexemes with
      | none => exact absurd (by rw [activate, signed]) answered
      | some result =>
          obtain rfl := (faithful.signedWith_eq_some signed).symm.trans evaluated
          rw [activate, signed]
  | @next left right value offset operator rest after _ binds read applied inductionHypothesis =>
      obtain ⟨fits, same⟩ := inductionHypothesis
      obtain ⟨shorter, evaluated⟩ := plain_eq_ok.mp read
      rw [operatorsWith, if_neg (Nat.not_lt.mpr binds)] at same
      cases called : inner ⟨activation.depth, operator.precedence + 1, rest⟩ with
      | none => exact absurd (by rw [same, called]) answered
      | some result =>
          obtain rfl := (faithful _ _ called).symm.trans evaluated
          rw [called] at same
          simp only [applied] at same
          exact ⟨_, same⟩

/-- An activation gives up exactly if it makes a call that is not answered. -/
theorem Faithful.activate_eq_none (activation : Activation) :
    activate bindings inner activation = none ↔
      ∃ called, activation.Calls bindings called ∧ inner called = none := by
  constructor
  · intro gaveUp
    rw [activate] at gaveUp
    split at gaveUp
    case h_1 signed =>
      obtain ⟨offset, rest, start, shallow, unanswered⟩ :=
        operandWith_eq_none.mp (signedWith_eq_none.mp signed)
      exact ⟨_, .opening start shallow, unanswered⟩
    · cases gaveUp
    case h_3 left rest shorter signed =>
      have stands : activation.Stands bindings left rest :=
        .first (plain_eq_ok.mpr ⟨shorter, faithful.signedWith_eq_some signed⟩)
      exact faithful.exists_call_of_operatorsWith stands gaveUp
  · rintro ⟨called, calls, unanswered⟩
    cases calls with
    | @opening offset rest start shallow =>
        have signed : signedWith bindings inner activation.depth activation.lexemes = none :=
          signedWith_eq_none.mpr (operandWith_eq_none.mpr ⟨offset, rest, start, shallow, unanswered⟩)
        rw [activate, signed]
    | @operator left offset operator rest stands binds =>
        by_contra answered
        obtain ⟨fits, same⟩ := faithful.activate_eq_operatorsWith stands answered
        rw [operatorsWith, if_neg (Nat.not_lt.mpr binds), unanswered] at same
        exact answered same

end OneActivation

/-! ## Nested activations -/

section Within

variable {bindings : Variables}

theorem faithful_within (room : Nat) : Faithful bindings (evaluateChainWithin bindings room) := by
  induction room with
  | zero =>
      intro activation result answered
      cases answered
  | succ room inductionHypothesis =>
      intro activation result answered
      exact inductionHypothesis.activate_eq_some answered

/-- A reader with limited room gives up exactly if there are more nested activations than it has room for. -/
theorem evaluateChainWithin_eq_none (room : Nat) (activation : Activation) :
    evaluateChainWithin bindings room activation = none ↔
      ∃ inner, List.IsChain (Activation.Calls bindings) (activation :: inner) ∧ room ≤ inner.length := by
  induction room generalizing activation with
  | zero => exact ⟨fun _ => ⟨[], .singleton activation, Nat.zero_le _⟩, fun _ => rfl⟩
  | succ room inductionHypothesis =>
      rw [evaluateChainWithin, (faithful_within room).activate_eq_none]
      constructor
      · rintro ⟨called, calls, unanswered⟩
        obtain ⟨inner, nested, long⟩ := (inductionHypothesis called).mp unanswered
        exact ⟨called :: inner, nested.cons_cons calls, Nat.succ_le_succ long⟩
      · rintro ⟨inner, nested, long⟩
        cases inner with
        | nil => cases long
        | cons called inner =>
            obtain ⟨calls, nested⟩ := List.isChain_cons_cons.mp nested
            refine ⟨called, calls, (inductionHypothesis called).mpr ⟨inner, nested, ?_⟩⟩
            exact Nat.le_of_succ_le_succ long

theorem evaluateLexemesWithin_eq_none {room : Nat} {lexemes : List Lexeme} :
    evaluateLexemesWithin room bindings lexemes = none ↔
      ∃ activations, Nested bindings lexemes activations ∧ room < activations.length := by
  constructor
  · intro gaveUp
    rw [evaluateLexemesWithin] at gaveUp
    split at gaveUp
    · cases gaveUp
    case isFalse something =>
      obtain ⟨inner, nested, long⟩ :=
        (evaluateChainWithin_eq_none room _).mp (Option.map_eq_none_iff.mp gaveUp)
      exact ⟨_ :: inner, ⟨mt List.isEmpty_iff.mpr something, rfl, nested⟩, Nat.lt_succ_of_le long⟩
  · rintro ⟨activations, nested, long⟩
    cases activations with
    | nil => cases long
    | cons outermost inner =>
        obtain ⟨something, rfl, nested⟩ := nested
        rw [evaluateLexemesWithin, if_neg (mt List.isEmpty_iff.mp something), Option.map_eq_none_iff,
          evaluateChainWithin_eq_none]
        exact ⟨inner, nested, Nat.le_of_lt_succ long⟩

theorem evaluateLexemesWithin_eq_some
    {room : Nat} {lexemes : List Lexeme} {result : Except EvalError Int}
    (answered : evaluateLexemesWithin room bindings lexemes = some result) :
    evaluateLexemes bindings lexemes = result := by
  rw [evaluateLexemesWithin] at answered
  rw [evaluateLexemes]
  split at answered
  case isTrue empty =>
    rw [if_pos empty]
    exact Option.some.inj answered
  case isFalse something =>
    obtain ⟨outcome, read, rfl⟩ := Option.map_eq_some_iff.mp answered
    have chain : evaluateChain bindings 0 0 lexemes = outcome := faithful_within room _ _ read
    rw [if_neg something, chain]
    rcases outcome with error | ⟨value, rest, shorter⟩
    · rfl
    · cases rest <;> rfl

end Within

/-! ## The bound -/

namespace Activation

/-- How many activations can be nested in one with the floor before a parenthesis opens, with it. -/
def level (floor : Nat) : Nat :=
  if floor ≤ 10 then 3 else if floor ≤ 20 then 2 else 1

/-- A bound on the activations that are nested in an activation, with it. -/
def rank (activation : Activation) : Nat :=
  3 * (maxDepth - activation.depth) + level activation.floor

theorem level_pos (floor : Nat) : 0 < level floor := by
  grind [level]

/-- A right operand has fewer levels than what its operator belongs to. -/
theorem level_lt {floor : Nat} {operator : Operator} (binds : floor ≤ operator.precedence) :
    level (operator.precedence + 1) < level floor := by
  cases operator <;> grind [level, Operator.precedence]

theorem Calls.rank_lt
    {bindings : Variables} {activation called : Activation} (calls : activation.Calls bindings called)
    (shallow : activation.depth ≤ maxDepth) :
    called.depth ≤ maxDepth ∧ called.rank < activation.rank := by
  cases calls with
  | opening _ deeper =>
      have positive := level_pos activation.floor
      have levels : level 0 = 3 := rfl
      simp only [rank, levels]
      omega
  | operator _ binds =>
      have falls := level_lt binds
      simp only [rank]
      omega

/-- The rank falls from each activation to the next one, so it bounds how many can be nested. -/
theorem length_lt_rank
    {bindings : Variables} {activation : Activation} {inner : List Activation}
    (nested : List.IsChain (Calls bindings) (activation :: inner)) (shallow : activation.depth ≤ maxDepth) :
    inner.length < activation.rank := by
  induction inner generalizing activation with
  | nil => exact Nat.lt_of_lt_of_le (level_pos activation.floor) (Nat.le_add_left _ _)
  | cons called inner inductionHypothesis =>
      obtain ⟨calls, nested⟩ := List.isChain_cons_cons.mp nested
      obtain ⟨fits, falls⟩ := calls.rank_lt shallow
      exact Nat.lt_of_le_of_lt (inductionHypothesis nested fits) falls

end Activation

theorem Nested.length_le
    {bindings : Variables} {lexemes : List Lexeme} {activations : List Activation}
    (nested : Nested bindings lexemes activations) :
    activations.length ≤ 3 * (maxDepth + 1) := by
  cases activations with
  | nil => exact Nat.zero_le _
  | cons outermost inner =>
      obtain ⟨_, rfl, chain⟩ := nested
      exact Activation.length_lt_rank chain (Nat.zero_le _)

/-! ## Expressions that nest as far as any -/

/-- The lexemes of `1+1*` before others, from a byte offset on. -/
def sumOfProduct (offset : Nat) (rest : List Lexeme) : List Lexeme :=
  ⟨offset, .number 1⟩ :: ⟨offset + 1, .operator .add⟩ :: ⟨offset + 2, .number 1⟩ ::
    ⟨offset + 3, .operator .multiply⟩ :: rest

/-- The lexemes of `1+1*(1+1*(1+1*1`, with any number of parentheses, from a byte offset on. -/
def tower (offset : Nat) : Nat → List Lexeme
  | 0 => sumOfProduct offset [⟨offset + 4, .number 1⟩]
  | parentheses + 1 =>
    sumOfProduct offset (⟨offset + 4, .opening⟩ :: tower (offset + 5) parentheses)

/-- An operator after a number calls an activation for its right operand. -/
theorem Activation.calls_after_number
    (bindings : Variables) {depth floor offset place value : Nat} {operator : Operator}
    {rest : List Lexeme} (binds : floor ≤ operator.precedence) :
    Activation.Calls bindings
      ⟨depth, floor, ⟨offset, .number value⟩ :: ⟨place, .operator operator⟩ :: rest⟩
      ⟨depth, operator.precedence + 1, rest⟩ := by
  have read :
      readSigned bindings depth (⟨offset, .number value⟩ :: ⟨place, .operator operator⟩ :: rest) =
        .ok (value, ⟨place, .operator operator⟩ :: rest) := by
    simp [readSigned_eq, Lexeme.isMinus, negate, Except.bind, Except.map]
  exact .operator (.first read) binds

theorem isChain_sumOfProduct
    {bindings : Variables} {depth : Nat} {rest : List Lexeme} {inner : List Activation} (offset : Nat)
    (nested : List.IsChain (Activation.Calls bindings) (⟨depth, 21, rest⟩ :: inner)) :
    ∃ middle, List.IsChain (Activation.Calls bindings)
      (⟨depth, 0, sumOfProduct offset rest⟩ :: middle :: ⟨depth, 21, rest⟩ :: inner) := by
  let right := ⟨offset + 2, .number 1⟩ :: ⟨offset + 3, .operator .multiply⟩ :: rest
  have sum : Activation.Calls bindings ⟨depth, 0, sumOfProduct offset rest⟩ ⟨depth, 11, right⟩ :=
    Activation.calls_after_number bindings (Nat.zero_le _)
  have product : Activation.Calls bindings ⟨depth, 11, right⟩ ⟨depth, 21, rest⟩ :=
    Activation.calls_after_number bindings (by decide)
  exact ⟨_, (nested.cons_cons product).cons_cons sum⟩

theorem exists_nested_tower
    (bindings : Variables) (depth offset : Nat) {parentheses : Nat}
    (shallow : depth + parentheses ≤ maxDepth) :
    ∃ inner, List.IsChain (Activation.Calls bindings) (⟨depth, 0, tower offset parentheses⟩ :: inner) ∧
      inner.length + 1 = 3 * (parentheses + 1) := by
  induction parentheses generalizing depth offset with
  | zero =>
      obtain ⟨middle, nested⟩ := isChain_sumOfProduct offset
        (.singleton (R := Activation.Calls bindings) ⟨depth, 21, [⟨offset + 4, .number 1⟩]⟩)
      exact ⟨_, nested, rfl⟩
  | succ parentheses inductionHypothesis =>
      obtain ⟨inner, nested, size⟩ := inductionHypothesis (depth + 1) (offset + 5) (by omega)
      have shallower : depth ≠ maxDepth := by omega
      have opens : Activation.Calls bindings
          ⟨depth, 21, ⟨offset + 4, .opening⟩ :: tower (offset + 5) parentheses⟩
          ⟨depth + 1, 0, tower (offset + 5) parentheses⟩ :=
        .opening rfl shallower
      obtain ⟨middle, nested⟩ := isChain_sumOfProduct offset (nested.cons_cons opens)
      refine ⟨_, nested, ?_⟩
      simp only [List.length_cons]
      omega

theorem tower_ne_nil (offset parentheses : Nat) : tower offset parentheses ≠ [] := by
  cases parentheses <;> exact List.cons_ne_nil _ _

/-! ## Bounded recursion -/

/-- However long an expression is, at most 771 activations are nested in each other while it is evaluated, so
an evaluator that gives up exactly beyond that number returns the same result. -/
theorem nesting_bounded (bindings : Variables) (lexemes : List Lexeme) :
    3 * (maxDepth + 1) = 771 ∧
    (∀ activations, Nested bindings lexemes activations → activations.length ≤ 771) ∧
    (∀ room, evaluateLexemesWithin room bindings lexemes = none ↔
      ∃ activations, Nested bindings lexemes activations ∧ room < activations.length) ∧
    evaluateLexemesWithin 771 bindings lexemes = some (evaluateLexemes bindings lexemes) := by
  refine ⟨rfl, fun _ => Nested.length_le, fun _ => evaluateLexemesWithin_eq_none, ?_⟩
  cases outcome : evaluateLexemesWithin 771 bindings lexemes with
  | none =>
      obtain ⟨activations, nested, long⟩ := evaluateLexemesWithin_eq_none.mp outcome
      exact absurd nested.length_le (Nat.not_le.mpr long)
  | some result => rw [evaluateLexemesWithin_eq_some outcome]

/-- The number is attained, where as many parentheses are open as are accepted. -/
theorem nesting_bounded_attained :
    ∃ activations, Nested .empty (tower 0 maxDepth) activations ∧ activations.length = 771 ∧
      activations.length ≤ 771 ∧ evaluateLexemesWithin 770 .empty (tower 0 maxDepth) = none ∧
      evaluateLexemesWithin 771 .empty (tower 0 maxDepth) =
        some (evaluateLexemes .empty (tower 0 maxDepth)) := by
  obtain ⟨inner, chain, size⟩ := exists_nested_tower .empty 0 0 (Nat.le_of_eq (Nat.zero_add maxDepth))
  obtain ⟨_, bound, givesUp, same⟩ := nesting_bounded .empty (tower 0 maxDepth)
  have nested : Nested .empty (tower 0 maxDepth) (_ :: inner) := ⟨tower_ne_nil 0 maxDepth, rfl, chain⟩
  have longer : 770 < inner.length + 1 := Nat.le_of_eq size.symm
  exact ⟨_, nested, size, bound _ nested, (givesUp 770).mpr ⟨_, nested, longer⟩, same⟩

end ScriptDebugger
