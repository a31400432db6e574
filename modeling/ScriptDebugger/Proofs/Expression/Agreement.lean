import ScriptDebugger.Proofs.Expression.Reading
import ScriptDebugger.Proofs.Preliminaries

/-!
# Evaluation while reading agrees with the value of the syntax tree

Reading a derived list of tokens gives the value of its tree, errors included, and what the readers
accept is derived.  Main statement: `evaluate_agrees_with_tree`.
-/

namespace ScriptDebugger

/-! ## Signs -/

theorem negate_succ (times : Nat) (value : Int) :
    negate (times + 1) value = (negate times value).bind fun result => bounded (-result) := by
  induction times generalizing value with
  | zero =>
      simp only [negate, Except.bind]
      cases bounded (-value) <;> rfl
  | succ times inductionHypothesis =>
      rw [negate]
      cases negated : bounded (-value) with
      | error error => simp [negate, negated, Except.bind]
      | ok result => simpa [negate, negated] using inductionHypothesis result

theorem readSigned_minus
    (bindings : Variables) (depth offset : Nat) (lexemes : List Lexeme) :
    readSigned bindings depth (⟨offset, .operator .subtract⟩ :: lexemes) =
      (readSigned bindings depth lexemes).bind fun reading =>
        (bounded (-reading.1)).map fun value => (value, reading.2) := by
  have minus : Lexeme.isMinus ⟨offset, .operator .subtract⟩ = true := by
    simp [Lexeme.isMinus]
  rw [readSigned_eq, readSigned_eq, List.dropWhile_cons_of_pos minus,
    List.takeWhile_cons_of_pos minus, List.length_cons]
  rcases readOperand bindings depth (lexemes.dropWhile Lexeme.isMinus) with error | ⟨operand, rest⟩
  · rfl
  · simp only [Except.bind, negate_succ]
    cases negate (lexemes.takeWhile Lexeme.isMinus).length operand <;> rfl

theorem readSigned_of_not_minus
    {bindings : Variables} {depth : Nat} {lexemes : List Lexeme}
    (unsigned : ∀ offset rest, lexemes ≠ ⟨offset, .operator .subtract⟩ :: rest) :
    readSigned bindings depth lexemes = readOperand bindings depth lexemes := by
  have noSigns : lexemes.dropWhile Lexeme.isMinus = lexemes ∧
      lexemes.takeWhile Lexeme.isMinus = [] := by
    rcases lexemes with _ | ⟨⟨offset, token⟩, rest⟩
    · exact ⟨rfl, rfl⟩
    · have different : ¬ Lexeme.isMinus ⟨offset, token⟩ = true := by
        intro minus
        have same : token = .operator .subtract := by simpa [Lexeme.isMinus] using minus
        exact unsigned offset rest (by rw [same])
      exact ⟨List.dropWhile_cons_of_neg different, List.takeWhile_cons_of_neg different⟩
  rw [readSigned_eq, noSigns.1, noSigns.2]
  rcases readOperand bindings depth lexemes with error | ⟨operand, rest⟩ <;> rfl

/-! ## Derived tokens are read as their tree -/

/-- `Meets deep result expected` means that the result is the expected one, unless a parenthesis is too
deep, which happens only if `deep`. -/
def Meets (deep : Prop) {α : Type} (result expected : Except EvalError α) : Prop :=
  result = expected ∨ deep ∧ ∃ offset, result = .error (.tooDeep offset)

theorem Meets.of_eq
    {deep : Prop} {α : Type} {result expected : Except EvalError α} (same : result = expected) :
    Meets deep result expected :=
  Or.inl same

theorem Meets.trans
    {deep : Prop} {α : Type} {result middle expected : Except EvalError α}
    (first : Meets deep result middle) (second : Meets deep middle expected) :
    Meets deep result expected := by
  rcases first with rfl | tooDeep
  · exact second
  · exact Or.inr tooDeep

/-- What goes on after two readings that meet meets again. -/
theorem Meets.bind
    {deep : Prop} {α β : Type} {result expected : Except EvalError α}
    {next other : α → Except EvalError β} (meets : Meets deep result expected)
    (later : ∀ value, Meets deep (next value) (other value)) :
    Meets deep (result.bind next) (expected.bind other) := by
  rcases meets with rfl | ⟨deep, offset, rfl⟩
  · cases result with
    | error error => exact Meets.of_eq rfl
    | ok value => exact later value
  · exact Or.inr ⟨deep, offset, rfl⟩

theorem Meets.eq
    {deep : Prop} {α : Type} {result expected : Except EvalError α}
    (meets : Meets deep result expected) (shallow : ¬ deep) :
    result = expected :=
  meets.resolve_right fun tooDeep => shallow tooDeep.1

/-- How a reader at a depth takes the lexemes of a tree, whatever follows them: an operand or a unary
gives the value of the tree; a term, and an expression that no multiplication continues, give it to
the operators that follow. -/
def ReadsAs (bindings : Variables) (depth : Nat) (deep : Prop) (lexemes : List Lexeme)
    (tree : Expression) : Category → Prop
  | .primary => ∀ rest,
      Meets deep (readOperand bindings depth (lexemes ++ rest))
        ((tree.value bindings).map fun value => (value, rest))
  | .unary => ∀ rest,
      Meets deep (readSigned bindings depth (lexemes ++ rest))
        ((tree.value bindings).map fun value => (value, rest))
  | .term => ∀ floor rest, floor ≤ 20 →
      Meets deep (readChain bindings depth floor (lexemes ++ rest))
        ((tree.value bindings).bind fun value => readOperators bindings depth floor value rest)
  | .expression => ∀ floor rest, floor ≤ 10 → EndsChain 11 rest →
      Meets deep (readChain bindings depth floor (lexemes ++ rest))
        ((tree.value bindings).bind fun value => readOperators bindings depth floor value rest)

theorem endsChain_nil (floor : Nat) : EndsChain floor [] := by
  intro offset operator rest shape
  cases shape

theorem endsChain_closing (floor offset : Nat) (rest : List Lexeme) :
    EndsChain floor (⟨offset, .closing⟩ :: rest) := by
  intro place operator after shape
  cases shape

theorem endsChain_operator
    {floor offset : Nat} {operator : Operator} {rest : List Lexeme}
    (below : operator.precedence < floor) :
    EndsChain floor (⟨offset, .operator operator⟩ :: rest) := by
  intro place other after shape
  cases shape
  exact below

theorem endsChain_above (lexemes : List Lexeme) : EndsChain 21 lexemes := by
  intro offset operator rest _
  cases operator <;> decide

theorem readChain_above
    (bindings : Variables) (depth : Nat) (lexemes : List Lexeme) :
    readChain bindings depth 21 lexemes = readSigned bindings depth lexemes := by
  rw [readChain_eq]
  rcases readSigned bindings depth lexemes with error | ⟨value, rest⟩
  · rfl
  · exact readOperators_of_endsChain (endsChain_above rest)

/-- The right operand and its operator are read after the left operand as their tree demands. -/
theorem meets_binary
    {bindings : Variables} {depth floor offset : Nat} {deep : Prop} {operator : Operator}
    {tail rest : List Lexeme} {left right : Expression} (binds : floor ≤ operator.precedence)
    (rightReads :
      Meets deep (readChain bindings depth (operator.precedence + 1) (tail ++ rest))
        ((right.value bindings).map fun value => (value, rest))) :
    Meets deep
      ((left.value bindings).bind fun value =>
        readOperators bindings depth floor value (⟨offset, .operator operator⟩ :: (tail ++ rest)))
      (((Expression.binary operator left right).value bindings).bind fun value =>
        readOperators bindings depth floor value rest) := by
  simp only [Expression.value]
  cases left.value bindings with
  | error error => exact Meets.of_eq rfl
  | ok first =>
      simp only [Except.bind]
      rw [readOperators_operator binds]
      refine (rightReads.bind fun _ => Meets.of_eq rfl).trans (Meets.of_eq ?_)
      cases right.value bindings <;> rfl

/-- Reading the tokens of a tree gives the value of the tree, unless more parentheses are open at once
than are accepted. -/
theorem Derives.readsAs
    {limit : Nat} {category : Category} {tokens : List Token} {tree : Expression}
    (derivation : Derives limit category tokens tree) (bindings : Variables) :
    ∀ (depth : Nat) (lexemes : List Lexeme), lexemes.map Lexeme.token = tokens →
      ReadsAs bindings depth (maxDepth < depth + limit) lexemes tree category := by
  induction derivation with
  | number limit value =>
      intro depth lexemes shape rest
      obtain ⟨⟨offset, token⟩, tail, rfl, rfl, last⟩ := List.map_eq_cons_iff.mp shape
      rw [List.map_eq_nil_iff.mp last]
      exact Meets.of_eq (readOperand_number bindings depth offset value rest)
  | identifier limit name =>
      intro depth lexemes shape rest
      obtain ⟨⟨offset, token⟩, tail, rfl, rfl, last⟩ := List.map_eq_cons_iff.mp shape
      rw [List.map_eq_nil_iff.mp last]
      exact Meets.of_eq (readOperand_identifier bindings depth offset name rest)
  | @group limit tokens tree inner inductionHypothesis =>
      intro depth lexemes shape rest
      obtain ⟨⟨offset, token⟩, tail, rfl, rfl, body⟩ := List.map_eq_cons_iff.mp shape
      obtain ⟨inside, last, rfl, insideShape, lastShape⟩ := List.map_eq_append_iff.mp body
      obtain ⟨⟨place, token⟩, after, rfl, rfl, done⟩ := List.map_eq_cons_iff.mp lastShape
      rw [List.map_eq_nil_iff.mp done]
      simp only [List.cons_append, List.append_assoc, List.nil_append, readOperand_opening]
      split
      case isTrue deepest => exact Or.inr ⟨by omega, offset, rfl⟩
      case isFalse shallow =>
        have read := inductionHypothesis (depth + 1) inside insideShape 0
          (⟨place, .closing⟩ :: rest) (Nat.zero_le _) (endsChain_closing 11 place rest)
        rw [Nat.add_right_comm depth 1 limit] at read
        refine (read.bind fun _ => Meets.of_eq rfl).trans (Meets.of_eq ?_)
        cases tree.value bindings with
        | error error => rfl
        | ok value =>
            simp only [Except.bind, readOperators_of_endsChain (endsChain_closing 0 place rest)]
            rfl
  | primary inner inductionHypothesis =>
      intro depth lexemes shape rest
      obtain ⟨first, others, rfl, different⟩ := inner.primary_head
      obtain ⟨⟨place, token⟩, tail, rfl, rfl, _⟩ := List.map_eq_cons_iff.mp shape
      have unsigned : ∀ offset after,
          ⟨place, token⟩ :: tail ++ rest ≠ ⟨offset, .operator .subtract⟩ :: after := by
        intro offset after same
        injection same with sameHead
        exact different (congrArg Lexeme.token sameHead)
      rw [readSigned_of_not_minus unsigned]
      exact inductionHypothesis depth (⟨place, token⟩ :: tail) shape rest
  | @negation limit tokens tree inner inductionHypothesis =>
      intro depth lexemes shape rest
      obtain ⟨⟨offset, token⟩, tail, rfl, rfl, body⟩ := List.map_eq_cons_iff.mp shape
      rw [List.cons_append, readSigned_minus]
      have read := inductionHypothesis depth tail body rest
      refine (read.bind fun _ => Meets.of_eq rfl).trans (Meets.of_eq ?_)
      simp only [Expression.value]
      cases tree.value bindings <;> rfl
  | @unary limit tokens tree inner inductionHypothesis =>
      intro depth lexemes shape floor rest _
      rw [readChain_eq]
      have read := inductionHypothesis depth lexemes shape rest
      refine (read.bind fun _ => Meets.of_eq rfl).trans (Meets.of_eq ?_)
      cases tree.value bindings <;> rfl
  | @product limit first second left right operator _ multiplicative _ leftReads rightReads =>
      intro depth lexemes shape floor rest low
      obtain ⟨front, back, rfl, frontShape, backShape⟩ := List.map_eq_append_iff.mp shape
      obtain ⟨⟨offset, token⟩, tail, rfl, rfl, tailShape⟩ := List.map_eq_cons_iff.mp backShape
      have precedence := Operator.precedence_of_not_isAdditive multiplicative
      rw [List.append_assoc, List.cons_append]
      refine (leftReads depth front frontShape floor _ low).trans (meets_binary (by omega) ?_)
      rw [precedence, readChain_above]
      exact rightReads depth tail tailShape rest
  | @term limit tokens tree inner inductionHypothesis =>
      intro depth lexemes shape floor rest low _
      exact inductionHypothesis depth lexemes shape floor rest (by omega)
  | @sum limit first second left right operator _ additive _ leftReads rightReads =>
      intro depth lexemes shape floor rest low ends
      obtain ⟨front, back, rfl, frontShape, backShape⟩ := List.map_eq_append_iff.mp shape
      obtain ⟨⟨offset, token⟩, tail, rfl, rfl, tailShape⟩ := List.map_eq_cons_iff.mp backShape
      have precedence := Operator.precedence_of_isAdditive additive
      rw [List.append_assoc, List.cons_append]
      have leftRead := leftReads depth front frontShape floor
        (⟨offset, .operator operator⟩ :: (tail ++ rest)) low (endsChain_operator (by omega))
      refine leftRead.trans (meets_binary (by omega) ?_)
      rw [precedence]
      refine (rightReads depth tail tailShape 11 rest (by omega)).trans (Meets.of_eq ?_)
      cases right.value bindings with
      | error error => rfl
      | ok second => exact readOperators_of_endsChain ends

/-! ## What is read is derived -/

/-- What the lexemes taken by a reader at a depth derive. -/
def Takes (depth : Nat) (category : Category) (lexemes rest : List Lexeme) : Prop :=
  ∃ taken tree, lexemes = taken ++ rest ∧
    Derives (maxDepth - depth) category (taken.map Lexeme.token) tree

/-- What the reader of operators adds to the tokens `before` it. -/
def Extends (depth : Nat) (category : Category) (before : List Token)
    (lexemes rest : List Lexeme) : Prop :=
  ∃ taken tree, lexemes = taken ++ rest ∧
    Derives (maxDepth - depth) category (before ++ taken.map Lexeme.token) tree

theorem Extends.takes
    {depth : Nat} {category : Category} {lexemes taken middle rest : List Lexeme}
    (shape : lexemes = taken ++ middle)
    (extension : Extends depth category (taken.map Lexeme.token) middle rest) :
    Takes depth category lexemes rest := by
  obtain ⟨back, tree, middleShape, derivation⟩ := extension
  refine ⟨taken ++ back, tree, ?_, ?_⟩
  · rw [shape, middleShape, List.append_assoc]
  · rw [List.map_append]
    exact derivation

theorem Extends.of_operator
    {depth : Nat} {category : Category} {before : List Token} {offset : Nat}
    {operator : Operator} {taken tail after rest : List Lexeme}
    (shape : tail = taken ++ after)
    (extension : Extends depth category
      (before ++ .operator operator :: taken.map Lexeme.token) after rest) :
    Extends depth category before (⟨offset, .operator operator⟩ :: tail) rest := by
  obtain ⟨back, tree, afterShape, derivation⟩ := extension
  refine ⟨⟨offset, .operator operator⟩ :: (taken ++ back), tree, ?_, ?_⟩
  · rw [shape, afterShape, List.cons_append, List.append_assoc]
  · simpa using derivation

mutual

theorem readOperand_takes
    (bindings : Variables) (depth : Nat) (lexemes : List Lexeme) (value : Int)
    (rest : List Lexeme) (fits : depth ≤ maxDepth)
    (success : readOperand bindings depth lexemes = .ok (value, rest)) :
    Takes depth .primary lexemes rest := by
  rcases start : lexemes with _ | ⟨⟨offset, token⟩, tail⟩
  · simp [start] at success
  · have shorter : tail.length < lexemes.length := by simp [start]
    rw [start] at success
    cases token with
    | number number =>
        rw [readOperand_number] at success
        cases success
        exact ⟨[⟨offset, .number number⟩], .number number, rfl, .number _ number⟩
    | identifier name =>
        rw [readOperand_identifier] at success
        obtain ⟨integer, _, same⟩ := Except.map_eq_ok success
        cases same
        exact ⟨[⟨offset, .identifier name⟩], .identifier name, rfl, .identifier _ name⟩
    | operator | closing => simp at success
    | opening =>
        rw [readOperand_opening] at success
        split at success
        · cases success
        case isFalse shallow =>
          obtain ⟨⟨inner, after⟩, read, closed⟩ := Except.bind_eq_ok success
          obtain ⟨taken, tree, shape, derivation⟩ :=
            readChain_takes_expression bindings (depth + 1) tail inner after (by omega) read
          rcases after with _ | ⟨⟨place, token⟩, after⟩
          · cases closed
          · cases token with
            | number | identifier | operator | opening => cases closed
            | closing =>
                cases closed
                refine ⟨⟨offset, .opening⟩ :: (taken ++ [⟨place, .closing⟩]), tree, ?_, ?_⟩
                · simp [shape]
                · have deeper : maxDepth - depth = maxDepth - (depth + 1) + 1 := by omega
                  rw [deeper]
                  simpa using derivation.group
termination_by 4 * lexemes.length

theorem readSigned_takes
    (bindings : Variables) (depth : Nat) (lexemes : List Lexeme) (value : Int)
    (rest : List Lexeme) (fits : depth ≤ maxDepth)
    (success : readSigned bindings depth lexemes = .ok (value, rest)) :
    Takes depth .unary lexemes rest := by
  by_cases signed : ∃ offset tail, lexemes = ⟨offset, .operator .subtract⟩ :: tail
  · obtain ⟨offset, tail, rfl⟩ := signed
    rw [readSigned_minus] at success
    obtain ⟨⟨operand, after⟩, read, negated⟩ := Except.bind_eq_ok success
    obtain ⟨negative, _, same⟩ := Except.map_eq_ok negated
    cases same
    obtain ⟨taken, tree, shape, derivation⟩ :=
      readSigned_takes bindings depth tail operand after fits read
    refine ⟨⟨offset, .operator .subtract⟩ :: taken, .negation tree, ?_, derivation.negation⟩
    rw [shape, List.cons_append]
  · have unsigned : ∀ offset tail, lexemes ≠ ⟨offset, .operator .subtract⟩ :: tail :=
      fun offset tail same => signed ⟨offset, tail, same⟩
    rw [readSigned_of_not_minus unsigned] at success
    obtain ⟨taken, tree, shape, derivation⟩ :=
      readOperand_takes bindings depth lexemes value rest fits success
    exact ⟨taken, tree, shape, derivation.primary⟩
termination_by 4 * lexemes.length + 1

theorem readOperators_extends_term
    (bindings : Variables) (depth : Nat) (lexemes : List Lexeme) (left value : Int)
    (rest : List Lexeme) (fits : depth ≤ maxDepth)
    (success : readOperators bindings depth 11 left lexemes = .ok (value, rest))
    (before : List Token) (tree : Expression)
    (derivation : Derives (maxDepth - depth) .term before tree) :
    Extends depth .term before lexemes rest ∧ EndsChain 11 rest := by
  rcases endsChain_or_operator 11 lexemes with ends | ⟨offset, operator, tail, rfl, binds⟩
  · rw [readOperators_of_endsChain ends] at success
    cases success
    exact ⟨⟨[], tree, rfl, by simpa using derivation⟩, ends⟩
  · have multiplicative : operator.isAdditive = false := by
      cases additive : operator.isAdditive with
      | false => rfl
      | true => simp [Operator.precedence_of_isAdditive additive] at binds
    rw [readOperators_operator binds, Operator.precedence_of_not_isAdditive multiplicative,
      readChain_above] at success
    obtain ⟨⟨right, after⟩, read, applied⟩ := Except.bind_eq_ok success
    obtain ⟨result, _, continued⟩ := Except.bind_eq_ok applied
    obtain ⟨taken, factor, shape, factorDerivation⟩ :=
      readSigned_takes bindings depth tail right after fits read
    have shorter : after.length ≤ tail.length := by simp [shape]
    have later := readOperators_extends_term bindings depth after result value rest fits continued
      _ _ (derivation.product multiplicative factorDerivation)
    exact ⟨later.1.of_operator shape, later.2⟩
termination_by 4 * lexemes.length + 2

theorem readChain_takes_term
    (bindings : Variables) (depth : Nat) (lexemes : List Lexeme) (value : Int)
    (rest : List Lexeme) (fits : depth ≤ maxDepth)
    (success : readChain bindings depth 11 lexemes = .ok (value, rest)) :
    Takes depth .term lexemes rest ∧ EndsChain 11 rest := by
  rw [readChain_eq] at success
  obtain ⟨⟨left, after⟩, read, continued⟩ := Except.bind_eq_ok success
  obtain ⟨taken, tree, shape, derivation⟩ :=
    readSigned_takes bindings depth lexemes left after fits read
  have shorter : after.length ≤ lexemes.length := by simp [shape]
  have later := readOperators_extends_term bindings depth after left value rest fits continued
    _ _ derivation.unary
  exact ⟨later.1.takes shape, later.2⟩
termination_by 4 * lexemes.length + 3

theorem readOperators_extends_expression
    (bindings : Variables) (depth : Nat) (lexemes : List Lexeme) (left value : Int)
    (rest : List Lexeme) (fits : depth ≤ maxDepth)
    (success : readOperators bindings depth 0 left lexemes = .ok (value, rest))
    (before : List Token) (tree : Expression)
    (derivation : Derives (maxDepth - depth) .term before tree ∨
      Derives (maxDepth - depth) .expression before tree ∧ EndsChain 11 lexemes) :
    Extends depth .expression before lexemes rest := by
  rcases endsChain_or_operator 0 lexemes with ends | ⟨offset, operator, tail, rfl, binds⟩
  · rw [readOperators_of_endsChain ends] at success
    cases success
    have whole : Derives (maxDepth - depth) .expression before tree :=
      derivation.elim Derives.term And.left
    exact ⟨[], tree, rfl, by simpa using whole⟩
  · rw [readOperators_operator binds] at success
    obtain ⟨⟨right, after⟩, read, applied⟩ := Except.bind_eq_ok success
    obtain ⟨result, _, continued⟩ := Except.bind_eq_ok applied
    cases additive : operator.isAdditive with
    | true =>
        rw [Operator.precedence_of_isAdditive additive] at read
        obtain ⟨⟨taken, summand, shape, summandDerivation⟩, ends⟩ :=
          readChain_takes_term bindings depth tail right after fits read
        have shorter : after.length ≤ tail.length := by simp [shape]
        have whole : Derives (maxDepth - depth) .expression before tree :=
          derivation.elim Derives.term And.left
        have later := readOperators_extends_expression bindings depth after result value rest fits
          continued _ _ (Or.inr ⟨whole.sum additive summandDerivation, ends⟩)
        exact later.of_operator shape
    | false =>
        -- A factor goes on a term only: after a sum its last term has taken all factors.
        have precedence := Operator.precedence_of_not_isAdditive additive
        have term : Derives (maxDepth - depth) .term before tree := by
          rcases derivation with term | ⟨_, ends⟩
          · exact term
          · have below := ends offset operator tail rfl
            omega
        rw [precedence, readChain_above] at read
        obtain ⟨taken, factor, shape, factorDerivation⟩ :=
          readSigned_takes bindings depth tail right after fits read
        have shorter : after.length ≤ tail.length := by simp [shape]
        have later := readOperators_extends_expression bindings depth after result value rest fits
          continued _ _ (Or.inl (term.product additive factorDerivation))
        exact later.of_operator shape
termination_by 4 * lexemes.length + 2

theorem readChain_takes_expression
    (bindings : Variables) (depth : Nat) (lexemes : List Lexeme) (value : Int)
    (rest : List Lexeme) (fits : depth ≤ maxDepth)
    (success : readChain bindings depth 0 lexemes = .ok (value, rest)) :
    Takes depth .expression lexemes rest := by
  rw [readChain_eq] at success
  obtain ⟨⟨left, after⟩, read, continued⟩ := Except.bind_eq_ok success
  obtain ⟨taken, tree, shape, derivation⟩ :=
    readSigned_takes bindings depth lexemes left after fits read
  have shorter : after.length ≤ lexemes.length := by simp [shape]
  have later := readOperators_extends_expression bindings depth after left value rest fits
    continued _ _ (Or.inl derivation.unary)
  exact later.takes shape
termination_by 4 * lexemes.length + 3

end

/-! ## Whole expressions -/

/-- Evaluating the lexemes of a tree gives the value of the tree, unless more parentheses are open at
once than are accepted. -/
theorem evaluateLexemes_meets
    {bindings : Variables} {limit : Nat} {lexemes : List Lexeme} {tree : Expression}
    (nonempty : lexemes ≠ [])
    (derivation : Derives limit .expression (lexemes.map Lexeme.token) tree) :
    Meets (maxDepth < limit) (evaluateLexemes bindings lexemes) (tree.value bindings) := by
  have read := derivation.readsAs bindings 0 lexemes rfl 0 [] (Nat.zero_le _) (endsChain_nil 11)
  rw [List.append_nil, Nat.zero_add] at read
  rw [evaluateLexemes_eq nonempty]
  refine (read.bind fun _ => Meets.of_eq rfl).trans (Meets.of_eq ?_)
  cases tree.value bindings with
  | error error => rfl
  | ok value => simp only [Except.bind, readOperators_of_endsChain (endsChain_nil 0)]

theorem evaluateLexemes_of_derives
    {bindings : Variables} {lexemes : List Lexeme} {tree : Expression} (nonempty : lexemes ≠ [])
    (derivation : Derives maxDepth .expression (lexemes.map Lexeme.token) tree) :
    evaluateLexemes bindings lexemes = tree.value bindings :=
  (evaluateLexemes_meets nonempty derivation).eq (Nat.lt_irrefl maxDepth)

theorem derives_of_evaluateLexemes
    {bindings : Variables} {lexemes : List Lexeme} {value : Int} (nonempty : lexemes ≠ [])
    (success : evaluateLexemes bindings lexemes = .ok value) :
    ∃ tree, Derives maxDepth .expression (lexemes.map Lexeme.token) tree := by
  rw [evaluateLexemes_eq nonempty] at success
  obtain ⟨⟨result, rest⟩, read, ended⟩ := Except.bind_eq_ok success
  cases rest with
  | cons first others => cases ended
  | nil =>
      obtain ⟨taken, tree, shape, derivation⟩ :=
        readChain_takes_expression bindings 0 lexemes result [] (Nat.zero_le _) read
      rw [List.append_nil] at shape
      exact ⟨tree, shape ▸ derivation⟩

/-- Evaluating an expression while it is read gives the value of its syntax tree, with the same first
error, and what has no syntax tree with at most `maxDepth` parentheses open at once is an error. -/
theorem evaluate_agrees_with_tree
    (text : String) (bindings : Variables) (lexemes : List Lexeme)
    (scanned : scan text = .ok lexemes) (nonempty : lexemes ≠ []) :
    (∀ tree, Derives maxDepth .expression (lexemes.map Lexeme.token) tree →
      evaluate text bindings = tree.value bindings) ∧
    ((¬ ∃ tree, Derives maxDepth .expression (lexemes.map Lexeme.token) tree) →
      ∃ error, evaluate text bindings = .error error) := by
  have reduced : evaluate text bindings = evaluateLexemes bindings lexemes := by
    rw [evaluate, scanned]
  rw [reduced]
  refine ⟨fun tree derivation => evaluateLexemes_of_derives nonempty derivation, ?_⟩
  intro underivable
  cases outcome : evaluateLexemes bindings lexemes with
  | error error => exact ⟨error, rfl⟩
  | ok value => exact absurd (derives_of_evaluateLexemes nonempty outcome) underivable

theorem evaluate_agrees_with_tree_differences :
    scan "8-(x+2)-1" = .ok
      [⟨0, .number 8⟩, ⟨1, .operator .subtract⟩, ⟨2, .opening⟩, ⟨3, .identifier "x"⟩,
        ⟨4, .operator .add⟩, ⟨5, .number 2⟩, ⟨6, .closing⟩, ⟨7, .operator .subtract⟩,
        ⟨8, .number 1⟩] ∧
    evaluate "8-(x+2)-1" (Variables.empty.insert "x" "-3") = .ok 8 := by
  have scanned : scan "8-(x+2)-1" = .ok
      [⟨0, .number 8⟩, ⟨1, .operator .subtract⟩, ⟨2, .opening⟩, ⟨3, .identifier "x"⟩,
        ⟨4, .operator .add⟩, ⟨5, .number 2⟩, ⟨6, .closing⟩, ⟨7, .operator .subtract⟩,
        ⟨8, .number 1⟩] := by
    with_unfolding_all rfl
  have inner : Derives 255 .expression [.identifier "x", .operator .add, .number 2]
      (.binary .add (.identifier "x") (.number 2)) :=
    Derives.sum (Derives.identifier 255 "x").primary.unary.term rfl
      (Derives.number 255 2).primary.unary
  have first : Derives maxDepth .expression
      [.number 8, .operator .subtract, .opening, .identifier "x", .operator .add, .number 2,
        .closing]
      (.binary .subtract (.number 8) (.binary .add (.identifier "x") (.number 2))) :=
    Derives.sum (Derives.number maxDepth 8).primary.unary.term rfl inner.group.primary.unary
  have whole : Derives maxDepth .expression
      [.number 8, .operator .subtract, .opening, .identifier "x", .operator .add, .number 2,
        .closing, .operator .subtract, .number 1]
      (.binary .subtract
        (.binary .subtract (.number 8) (.binary .add (.identifier "x") (.number 2)))
        (.number 1)) :=
    Derives.sum first rfl (Derives.number maxDepth 1).primary.unary
  have agreement := (evaluate_agrees_with_tree "8-(x+2)-1" (Variables.empty.insert "x" "-3") _
    scanned (by simp)).1 _ whole
  have value : Expression.value (Variables.empty.insert "x" "-3")
      (.binary .subtract
        (.binary .subtract (.number 8) (.binary .add (.identifier "x") (.number 2)))
        (.number 1)) = .ok 8 :=
    rfl
  exact ⟨scanned, agreement.trans value⟩

end ScriptDebugger
