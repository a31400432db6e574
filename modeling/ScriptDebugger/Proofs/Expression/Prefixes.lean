import ScriptDebugger.Proofs.Expression.Agreement

/-!
# Prefixes of expressions

Whether tokens can start a well-formed expression is decided token by token: all that counts is how many
parentheses are open and whether an operand is due.  Evaluation reads in the same way, so a syntax error
is at the first token with which no well-formed expression starts.
-/

namespace ScriptDebugger

/-- `Starts limit tokens` means that the tokens can be extended to a well-formed expression with at most
`limit` parentheses open at once. -/
def Starts (limit : Nat) (tokens : List Token) : Prop :=
  ∃ more tree, Derives limit .expression (tokens ++ more) tree

/-- How many parentheses are still open after the tokens. -/
def openCount (tokens : List Token) : Nat :=
  tokens.count .opening - tokens.count .closing

/-! ## Reading token by token -/

/-- How far an expression has been read: the number of open parentheses, and whether an operand has to
come next. -/
structure Progress where
  opened : Nat
  operandDue : Bool
  deriving DecidableEq, Repr

namespace Progress

/-- The progress before the first token. -/
def start : Progress :=
  ⟨0, true⟩

/-- The progress after one more token, if the token is possible. -/
def after (limit : Nat) : Progress → Token → Option Progress
  | ⟨opened, true⟩, .number _ => some ⟨opened, false⟩
  | ⟨opened, true⟩, .identifier _ => some ⟨opened, false⟩
  | ⟨opened, true⟩, .operator .subtract => some ⟨opened, true⟩
  | ⟨opened, true⟩, .opening => if opened < limit then some ⟨opened + 1, true⟩ else none
  | ⟨opened, false⟩, .operator _ => some ⟨opened, true⟩
  | ⟨opened + 1, false⟩, .closing => some ⟨opened, false⟩
  | _, _ => none

/-- The progress after more tokens, if all of them are possible. -/
def afterAll (limit : Nat) (progress : Progress) (tokens : List Token) : Option Progress :=
  tokens.foldlM (after limit) progress

variable {limit : Nat} {progress reached : Progress} {token : Token} {tokens : List Token}

@[simp]
theorem afterAll_nil : afterAll limit progress [] = some progress :=
  rfl

@[simp]
theorem afterAll_cons :
    afterAll limit progress (token :: tokens) =
      (after limit progress token).bind fun next => afterAll limit next tokens :=
  rfl

theorem afterAll_append (first second : List Token) :
    afterAll limit progress (first ++ second) =
      (afterAll limit progress first).bind fun middle => afterAll limit middle second :=
  List.foldlM_append

theorem after_cases (possible : after limit progress token = some reached) :
    (∃ opened, progress = ⟨opened, true⟩ ∧
      ((∃ value, token = .number value ∧ reached = ⟨opened, false⟩) ∨
        (∃ name, token = .identifier name ∧ reached = ⟨opened, false⟩) ∨
        token = .operator .subtract ∧ reached = ⟨opened, true⟩ ∨
        token = .opening ∧ opened < limit ∧ reached = ⟨opened + 1, true⟩)) ∨
    (∃ opened, progress = ⟨opened, false⟩ ∧
      ((∃ operator, token = .operator operator ∧ reached = ⟨opened, true⟩) ∨
        ∃ fewer, opened = fewer + 1 ∧ token = .closing ∧ reached = ⟨fewer, false⟩)) := by
  unfold after at possible
  split at possible
  all_goals grind

theorem after_mono
    {bound : Nat} (possible : after limit progress token = some reached) (within : limit ≤ bound) :
    after bound progress token = some reached := by
  rcases after_cases possible with ⟨opened, rfl, cases⟩ | ⟨opened, rfl, cases⟩
  · rcases cases with ⟨value, rfl, rfl⟩ | ⟨name, rfl, rfl⟩ | ⟨rfl, rfl⟩ | ⟨rfl, below, rfl⟩
    · rfl
    · rfl
    · rfl
    · rw [after, if_pos (by omega)]
  · rcases cases with ⟨operator, rfl, rfl⟩ | ⟨fewer, rfl, rfl, rfl⟩
    · rfl
    · rfl

theorem afterAll_mono
    {bound : Nat} (possible : afterAll limit progress tokens = some reached)
    (within : limit ≤ bound) :
    afterAll bound progress tokens = some reached := by
  induction tokens generalizing progress with
  | nil => exact possible
  | cons token tokens inductionHypothesis =>
      obtain ⟨next, first, rest⟩ := Option.bind_eq_some_iff.mp possible
      rw [afterAll_cons, after_mono first within, Option.bind_some]
      exact inductionHypothesis rest

/-- Each open parenthesis was opened and not closed. -/
theorem opened_eq (possible : afterAll limit progress tokens = some reached) :
    reached.opened + tokens.count .closing = progress.opened + tokens.count .opening := by
  induction tokens generalizing progress with
  | nil =>
      obtain rfl := Option.some.inj possible
      rfl
  | cons token tokens inductionHypothesis =>
      obtain ⟨next, first, rest⟩ := Option.bind_eq_some_iff.mp possible
      have later := inductionHypothesis rest
      rcases after_cases first with ⟨opened, rfl, cases⟩ | ⟨opened, rfl, cases⟩
      · rcases cases with ⟨value, rfl, rfl⟩ | ⟨name, rfl, rfl⟩ | ⟨rfl, rfl⟩ | ⟨rfl, _, rfl⟩
        all_goals simp at later ⊢; omega
      · rcases cases with ⟨operator, rfl, rfl⟩ | ⟨fewer, rfl, rfl, rfl⟩
        all_goals simp at later ⊢; omega

theorem openCount_eq (possible : afterAll limit start tokens = some reached) :
    openCount tokens = reached.opened := by
  have balance := opened_eq possible
  simp only [start] at balance
  rw [openCount]
  omega

end Progress

open Progress

/-! ## Well-formed expressions are read to their end -/

theorem Derives.afterAll_eq
    {limit : Nat} {category : Category} {tokens : List Token} {tree : Expression}
    (derivation : Derives limit category tokens tree) :
    ∀ opened bound, opened + limit ≤ bound →
      afterAll bound ⟨opened, true⟩ tokens = some ⟨opened, false⟩ := by
  induction derivation with
  | number | identifier => exact fun _ _ _ => rfl
  | group _ inductionHypothesis =>
      intro opened bound within
      have inner := inductionHypothesis (opened + 1) bound (by omega)
      have enter : after bound ⟨opened, true⟩ .opening = some ⟨opened + 1, true⟩ :=
        if_pos (by omega)
      rw [afterAll_cons, enter, Option.bind_some, afterAll_append, inner]
      rfl
  | primary _ inductionHypothesis => exact inductionHypothesis
  | negation _ inductionHypothesis =>
      intro opened bound within
      exact inductionHypothesis opened bound within
  | unary _ inductionHypothesis => exact inductionHypothesis
  | term _ inductionHypothesis => exact inductionHypothesis
  | product _ _ _ leftHypothesis rightHypothesis
  | sum _ _ _ leftHypothesis rightHypothesis =>
      intro opened bound within
      rw [afterAll_append, leftHypothesis opened bound within, Option.bind_some, afterAll_cons]
      exact rightHypothesis opened bound within

/-! ## What is read can be completed -/

/-- An expression can be continued by any operator and operand: a factor goes to its last term. -/
theorem Derives.continued
    {limit : Nat} {first second : List Token} {left right : Expression} (operator : Operator)
    (leftDerivation : Derives limit .expression first left)
    (rightDerivation : Derives limit .unary second right) :
    ∃ tree, Derives limit .expression (first ++ .operator operator :: second) tree := by
  by_cases additive : operator.isAdditive = true
  · exact ⟨_, leftDerivation.sum additive rightDerivation.unary⟩
  · have multiplicative : operator.isAdditive = false := Bool.eq_false_iff.mpr additive
    cases leftDerivation with
    | term inner => exact ⟨_, (inner.product multiplicative rightDerivation).term⟩
    | @sum _ front back _ _ other inner otherAdditive last =>
        have extended := inner.sum otherAdditive (last.product multiplicative rightDerivation)
        rw [List.append_assoc, List.cons_append]
        exact ⟨_, extended⟩

/-- `Completes limit opened tokens` means that the tokens complete an expression after an operand inside
`opened` parentheses. -/
inductive Completes (limit : Nat) : Nat → List Token → Prop
  | done : Completes limit 0 []
  | operand {opened : Nat} {tokens rest : List Token} {tree : Expression} (operator : Operator) :
      Derives (limit - opened) .unary tokens tree →
      Completes limit opened rest →
      Completes limit opened (.operator operator :: (tokens ++ rest))
  | closing {opened : Nat} {rest : List Token} :
      Completes limit opened rest →
      Completes limit (opened + 1) (.closing :: rest)

theorem completes_replicate (limit opened : Nat) :
    Completes limit opened (List.replicate opened .closing) := by
  induction opened with
  | zero => exact .done
  | succ opened inductionHypothesis => exact inductionHypothesis.closing

/-- What completes an expression outside of all parentheses continues it. -/
theorem Completes.whole
    {limit opened : Nat} {rest : List Token} (completes : Completes limit opened rest)
    (outside : opened = 0) {tokens : List Token} {tree : Expression}
    (derivation : Derives limit .expression tokens tree) :
    ∃ tree, Derives limit .expression (tokens ++ rest) tree := by
  induction completes generalizing tokens tree with
  | done => exact ⟨tree, by rwa [List.append_nil]⟩
  | @operand opened more rest _ operator operandDerivation _ inductionHypothesis =>
      subst outside
      obtain ⟨longer, continued⟩ := derivation.continued operator operandDerivation
      have completed := inductionHypothesis rfl continued
      rwa [List.append_assoc, List.cons_append] at completed
  | closing => omega

/-- What completes an expression inside a parenthesis first continues it and then closes the
parenthesis. -/
theorem Completes.inside
    {limit opened : Nat} {rest : List Token} (completes : Completes limit opened rest)
    {fewer : Nat} (within : opened = fewer + 1) {tokens : List Token} {tree : Expression}
    (derivation : Derives (limit - opened) .expression tokens tree) :
    ∃ front back tree, rest = front ++ .closing :: back ∧
      Derives (limit - opened) .expression (tokens ++ front) tree ∧
        Completes limit fewer back := by
  induction completes generalizing tokens tree with
  | done => omega
  | @operand opened more rest _ operator operandDerivation _ inductionHypothesis =>
      obtain ⟨longer, continued⟩ := derivation.continued operator operandDerivation
      obtain ⟨front, back, whole, rfl, inner, completes⟩ := inductionHypothesis within continued
      refine ⟨.operator operator :: (more ++ front), back, whole, ?_, ?_, completes⟩
      · simp
      · simpa using inner
  | @closing opened rest completes _ =>
      obtain rfl : opened = fewer := by omega
      exact ⟨[], rest, tree, rfl, by simpa using derivation, completes⟩

/-- Whatever completes an expression from the progress on completes the tokens to a well-formed one. -/
def Completable (limit : Nat) (tokens : List Token) : Progress → Prop
  | ⟨opened, true⟩ => ∀ operand tree rest,
      Derives (limit - opened) .unary operand tree →
      Completes limit opened rest →
      ∃ whole, Derives limit .expression (tokens ++ (operand ++ rest)) whole
  | ⟨opened, false⟩ => ∀ rest,
      Completes limit opened rest →
      ∃ whole, Derives limit .expression (tokens ++ rest) whole

theorem completable_start (limit : Nat) : Completable limit [] start := by
  intro operand tree rest derivation completes
  exact completes.whole rfl derivation.unary.term

theorem Completable.after
    {limit : Nat} {tokens : List Token} {progress reached : Progress} {token : Token}
    (completable : Completable limit tokens progress)
    (possible : progress.after limit token = some reached) :
    Completable limit (tokens ++ [token]) reached := by
  rcases after_cases possible with ⟨opened, rfl, cases⟩ | ⟨opened, rfl, cases⟩
  · rcases cases with ⟨value, rfl, rfl⟩ | ⟨name, rfl, rfl⟩ | ⟨rfl, rfl⟩ | ⟨rfl, below, rfl⟩
    · intro rest completes
      rw [List.append_assoc]
      exact completable _ _ rest (Derives.number _ value).primary completes
    · intro rest completes
      rw [List.append_assoc]
      exact completable _ _ rest (Derives.identifier _ name).primary completes
    · intro operand tree rest derivation completes
      rw [List.append_assoc]
      exact completable _ _ rest derivation.negation completes
    · intro operand tree rest derivation completes
      obtain ⟨front, back, inner, rfl, innerDerivation, outer⟩ :=
        completes.inside rfl derivation.unary.term
      have deeper : limit - opened = limit - (opened + 1) + 1 := by omega
      have group : Derives (limit - opened) .unary
          (.opening :: ((operand ++ front) ++ [.closing])) inner := by
        rw [deeper]
        exact innerDerivation.group.primary
      simpa using completable _ _ back group outer
  · rcases cases with ⟨operator, rfl, rfl⟩ | ⟨fewer, rfl, rfl, rfl⟩
    · intro operand tree rest derivation completes
      rw [List.append_assoc]
      exact completable (.operator operator :: (operand ++ rest))
        (completes.operand operator derivation)
    · intro rest completes
      rw [List.append_assoc]
      exact completable _ completes.closing

theorem Completable.afterAll
    {limit : Nat} {before tokens : List Token} {progress reached : Progress}
    (completable : Completable limit before progress)
    (possible : progress.afterAll limit tokens = some reached) :
    Completable limit (before ++ tokens) reached := by
  induction tokens generalizing before progress with
  | nil =>
      obtain rfl := Option.some.inj possible
      rwa [List.append_nil]
  | cons token tokens inductionHypothesis =>
      obtain ⟨next, first, rest⟩ := Option.bind_eq_some_iff.mp possible
      have later := inductionHypothesis (completable.after first) rest
      rwa [List.append_assoc] at later

/-- The tokens that start a well-formed expression are those that can be read one after the other. -/
theorem starts_iff {limit : Nat} {tokens : List Token} :
    Starts limit tokens ↔ ∃ reached, start.afterAll limit tokens = some reached := by
  constructor
  · rintro ⟨more, tree, derivation⟩
    have whole := derivation.afterAll_eq 0 limit (by omega)
    rw [afterAll_append] at whole
    obtain ⟨reached, first, _⟩ := Option.bind_eq_some_iff.mp whole
    exact ⟨reached, first⟩
  · rintro ⟨⟨opened, operandDue⟩, possible⟩
    have completable := (completable_start limit).afterAll possible
    cases operandDue with
    | false => exact ⟨_, completable _ (completes_replicate limit opened)⟩
    | true =>
        exact ⟨_, completable _ _ _ (Derives.number _ 0).primary (completes_replicate limit opened)⟩

theorem Starts.mono {limit bound : Nat} {tokens : List Token} (starts : Starts limit tokens)
    (within : limit ≤ bound) : Starts bound tokens := by
  obtain ⟨reached, possible⟩ := starts_iff.mp starts
  exact starts_iff.mpr ⟨reached, afterAll_mono possible within⟩

/-! ## What evaluation has read -/

/-- Whether an error is about a value, not about the way an expression is written. -/
def EvalError.concernsValue : EvalError → Bool
  | .unknownVariable _ | .notANumber _ _ | .divisionByZero | .overflow => true
  | .empty | .unexpectedCharacter _ _ | .unexpectedToken _ _ | .unexpectedEnd | .tooDeep _
  | .invalidNumber _ => false

/-- Where an error stops the reading of lexemes from the progress on. -/
def StopsAt (progress : Progress) (lexemes : List Lexeme) : EvalError → Prop
  | .unexpectedToken found offset =>
    ∃ before after reached, lexemes = before ++ ⟨offset, found⟩ :: after ∧
      progress.afterAll maxDepth (before.map Lexeme.token) = some reached ∧
        ∀ limit, reached.after limit found = none
  | .unexpectedEnd =>
    ∃ reached, progress.afterAll maxDepth (lexemes.map Lexeme.token) = some reached ∧
      reached ≠ ⟨0, false⟩
  | .tooDeep offset =>
    ∃ before after, lexemes = before ++ ⟨offset, .opening⟩ :: after ∧
      progress.afterAll maxDepth (before.map Lexeme.token) = some ⟨maxDepth, true⟩
  | error => error.concernsValue = true

/-- What a reader does between two states of progress: it takes tokens that lead from the first to the
second, or an error stops it. -/
def Reads (first second : Progress) (lexemes : List Lexeme) :
    Except EvalError (Int × List Lexeme) → Prop
  | .ok (_, rest) =>
    ∃ taken, lexemes = taken ++ rest ∧
      first.afterAll maxDepth (taken.map Lexeme.token) = some second
  | .error error => StopsAt first lexemes error

section Reads

variable {first middle second : Progress} {lexemes taken rest : List Lexeme} {error : EvalError}

theorem StopsAt.of_concernsValue (value : error.concernsValue = true) :
    StopsAt first lexemes error := by
  cases error with
  | unknownVariable | notANumber | divisionByZero | overflow => exact rfl
  | empty | unexpectedCharacter | unexpectedToken | unexpectedEnd | tooDeep | invalidNumber =>
      cases value

theorem StopsAt.prepend
    (possible : first.afterAll maxDepth (taken.map Lexeme.token) = some middle)
    (stops : StopsAt middle rest error) :
    StopsAt first (taken ++ rest) error := by
  have joined (before : List Lexeme) :
      first.afterAll maxDepth ((taken ++ before).map Lexeme.token) =
        middle.afterAll maxDepth (before.map Lexeme.token) := by
    rw [List.map_append, afterAll_append, possible, Option.bind_some]
  cases error with
  | unexpectedToken found offset =>
      obtain ⟨before, after, reached, rfl, read, impossible⟩ := stops
      exact ⟨taken ++ before, after, reached, by simp, (joined before).trans read, impossible⟩
  | unexpectedEnd =>
      obtain ⟨reached, read, unfinished⟩ := stops
      exact ⟨reached, (joined rest).trans read, unfinished⟩
  | tooDeep offset =>
      obtain ⟨before, after, rfl, read⟩ := stops
      exact ⟨taken ++ before, after, by simp, (joined before).trans read⟩
  | unknownVariable | notANumber | divisionByZero | overflow => exact rfl
  | empty | unexpectedCharacter | invalidNumber => cases stops

theorem Reads.prepend
    {result : Except EvalError (Int × List Lexeme)}
    (possible : first.afterAll maxDepth (taken.map Lexeme.token) = some middle)
    (reads : Reads middle second rest result) :
    Reads first second (taken ++ rest) result := by
  match result, reads with
  | .error error, stops => exact StopsAt.prepend possible stops
  | .ok (value, left), ⟨more, shape, morePossible⟩ =>
      refine ⟨taken ++ more, ?_, ?_⟩
      · rw [shape, List.append_assoc]
      · rw [List.map_append, afterAll_append, possible, Option.bind_some]
        exact morePossible

theorem Reads.token
    {lexeme : Lexeme} {result : Except EvalError (Int × List Lexeme)}
    (possible : first.after maxDepth lexeme.token = some middle)
    (reads : Reads middle second rest result) :
    Reads first second (lexeme :: rest) result := by
  have one : first.afterAll maxDepth ([lexeme].map Lexeme.token) = some middle := by
    simp [possible]
  exact reads.prepend one

theorem Reads.bind
    {result : Except EvalError (Int × List Lexeme)}
    {next : Int × List Lexeme → Except EvalError (Int × List Lexeme)}
    (reads : Reads first middle lexemes result)
    (later : ∀ value rest, result = .ok (value, rest) →
      Reads middle second rest (next (value, rest))) :
    Reads first second lexemes (result.bind next) := by
  match result, reads, later with
  | .error error, stops, _ => exact stops
  | .ok (value, rest), ⟨taken, shape, possible⟩, later =>
      rw [shape]
      exact (later value rest rfl).prepend possible

/-- A computation reads no token. -/
theorem Reads.compute
    {result : Except EvalError Int}
    (value : ∀ error, result = .error error → error.concernsValue = true) :
    Reads first first lexemes (result.map fun value => (value, lexemes)) := by
  cases result with
  | error error => exact StopsAt.of_concernsValue (value error rfl)
  | ok value => exact ⟨[], rfl, rfl⟩

end Reads

theorem bounded_concernsValue
    {value : Int} {error : EvalError} (failure : bounded value = .error error) :
    error.concernsValue = true := by
  unfold bounded at failure
  split at failure
  · cases failure
  · cases failure
    rfl

theorem Operator.apply_concernsValue
    {operator : Operator} {left right : Int} {error : EvalError}
    (failure : operator.apply left right = .error error) :
    error.concernsValue = true := by
  cases operator with
  | add | subtract | multiply => exact bounded_concernsValue failure
  | divide =>
      simp only [Operator.apply] at failure
      split at failure
      · cases failure
        rfl
      · exact bounded_concernsValue failure
  | remainder =>
      simp only [Operator.apply] at failure
      split at failure
      · cases failure
        rfl
      · cases quotient : bounded (left.tdiv right) with
        | ok value =>
            rw [quotient] at failure
            cases failure
        | error other =>
            rw [quotient] at failure
            cases failure
            exact bounded_concernsValue quotient

theorem Variables.integer_concernsValue
    {bindings : Variables} {name : String} {error : EvalError}
    (failure : bindings.integer name = .error error) :
    error.concernsValue = true := by
  unfold Variables.integer at failure
  split at failure
  · cases failure
    rfl
  · split at failure
    · cases failure
    · cases failure
      rfl

theorem length_lt_of_plain
    {size : Nat} {result : Except EvalError (Int × Remaining size)} {value : Int}
    {rest : List Lexeme} (success : plain result = .ok (value, rest)) :
    rest.length < size := by
  obtain ⟨⟨number, left, shorter⟩, _, same⟩ := Except.map_eq_ok success
  cases same
  exact shorter

theorem readOperators_endsChain
    (bindings : Variables) (depth floor : Nat) (left value : Int) (lexemes rest : List Lexeme)
    (success : readOperators bindings depth floor left lexemes = .ok (value, rest)) :
    EndsChain floor rest := by
  rcases endsChain_or_operator floor lexemes with ends | ⟨offset, operator, tail, shape, binds⟩
  · rw [readOperators_of_endsChain ends] at success
    cases success
    exact ends
  · have tailShorter : tail.length < lexemes.length := by simp [shape]
    rw [shape, readOperators_operator binds] at success
    obtain ⟨⟨right, after⟩, read, applied⟩ := Except.bind_eq_ok success
    obtain ⟨result, _, continued⟩ := Except.bind_eq_ok applied
    have shorter : after.length < tail.length := length_lt_of_plain read
    exact readOperators_endsChain bindings depth floor result value after rest continued
termination_by lexemes.length

theorem readChain_endsChain
    {bindings : Variables} {depth floor : Nat} {value : Int} {lexemes rest : List Lexeme}
    (success : readChain bindings depth floor lexemes = .ok (value, rest)) :
    EndsChain floor rest := by
  rw [readChain_eq] at success
  obtain ⟨⟨left, middle⟩, _, continued⟩ := Except.bind_eq_ok success
  exact readOperators_endsChain bindings depth floor left value middle rest continued

/-- A closed group leads from inside its parenthesis to the operand that it is. -/
theorem reads_closeGroup
    {depth : Nat} {value : Int} {rest : List Lexeme} (ends : EndsChain 0 rest) :
    Reads ⟨depth + 1, false⟩ ⟨depth, false⟩ rest (closeGroup (value, rest)) := by
  rcases rest with _ | ⟨⟨offset, token⟩, after⟩
  · exact ⟨⟨depth + 1, false⟩, rfl, by simp⟩
  · cases token with
    | closing => exact ⟨[⟨offset, .closing⟩], rfl, rfl⟩
    | operator operator => exact absurd (ends offset operator after rfl) (Nat.not_lt_zero _)
    | number | identifier | opening => exact ⟨[], after, _, rfl, rfl, fun _ => rfl⟩

mutual

theorem readOperand_reads
    (bindings : Variables) (depth : Nat) (lexemes : List Lexeme) (fits : depth ≤ maxDepth)
    (unsigned : ∀ offset rest, lexemes ≠ ⟨offset, .operator .subtract⟩ :: rest) :
    Reads ⟨depth, true⟩ ⟨depth, false⟩ lexemes (readOperand bindings depth lexemes) := by
  rcases start : lexemes with _ | ⟨⟨offset, token⟩, tail⟩
  · rw [readOperand_nil]
    exact ⟨⟨depth, true⟩, rfl, by simp⟩
  · have shorter : tail.length < lexemes.length := by simp [start]
    cases token with
    | number value =>
        rw [readOperand_number]
        exact ⟨[⟨offset, .number value⟩], rfl, rfl⟩
    | identifier name =>
        rw [readOperand_identifier]
        cases held : bindings.integer name with
        | error error => exact StopsAt.of_concernsValue (Variables.integer_concernsValue held)
        | ok value => exact ⟨[⟨offset, .identifier name⟩], rfl, rfl⟩
    | closing =>
        rw [readOperand_closing]
        exact ⟨[], tail, ⟨depth, true⟩, rfl, rfl, fun _ => rfl⟩
    | operator operator =>
        rw [readOperand_operator]
        refine ⟨[], tail, ⟨depth, true⟩, rfl, rfl, fun _ => ?_⟩
        cases operator with
        | subtract => exact absurd start (unsigned offset tail)
        | add | multiply | divide | remainder => rfl
    | opening =>
        rw [readOperand_opening]
        by_cases deepest : depth = maxDepth
        · rw [if_pos deepest]
          exact ⟨[], tail, rfl, by simp [deepest]⟩
        · rw [if_neg deepest]
          have enter : after maxDepth ⟨depth, true⟩ .opening = some ⟨depth + 1, true⟩ :=
            if_pos (by omega)
          apply Reads.token enter
          apply (readChain_reads bindings (depth + 1) 0 tail (by omega)).bind
          intro inner after read
          exact reads_closeGroup (readChain_endsChain read)
termination_by 4 * lexemes.length

theorem readSigned_reads
    (bindings : Variables) (depth : Nat) (lexemes : List Lexeme) (fits : depth ≤ maxDepth) :
    Reads ⟨depth, true⟩ ⟨depth, false⟩ lexemes (readSigned bindings depth lexemes) := by
  by_cases signed : ∃ offset tail, lexemes = ⟨offset, .operator .subtract⟩ :: tail
  · obtain ⟨offset, tail, shape⟩ := signed
    have shorter : tail.length < lexemes.length := by simp [shape]
    rw [shape, readSigned_minus]
    apply Reads.token rfl
    apply (readSigned_reads bindings depth tail fits).bind
    intro operand rest _
    exact Reads.compute fun error => bounded_concernsValue
  · have unsigned : ∀ offset tail, lexemes ≠ ⟨offset, .operator .subtract⟩ :: tail :=
      fun offset tail same => signed ⟨offset, tail, same⟩
    rw [readSigned_of_not_minus unsigned]
    exact readOperand_reads bindings depth lexemes fits unsigned
termination_by 4 * lexemes.length + 1

theorem readOperators_reads
    (bindings : Variables) (depth floor : Nat) (left : Int) (lexemes : List Lexeme)
    (fits : depth ≤ maxDepth) :
    Reads ⟨depth, false⟩ ⟨depth, false⟩ lexemes
      (readOperators bindings depth floor left lexemes) := by
  rcases endsChain_or_operator floor lexemes with ends | ⟨offset, operator, tail, shape, binds⟩
  · rw [readOperators_of_endsChain ends]
    exact ⟨[], rfl, rfl⟩
  · have tailShorter : tail.length < lexemes.length := by simp [shape]
    rw [shape, readOperators_operator binds]
    apply Reads.token rfl
    apply (readChain_reads bindings depth (operator.precedence + 1) tail fits).bind
    intro right after read
    have shorter : after.length < tail.length := length_lt_of_plain read
    dsimp only
    cases applied : operator.apply left right with
    | error error => exact StopsAt.of_concernsValue (Operator.apply_concernsValue applied)
    | ok value => exact readOperators_reads bindings depth floor value after fits
termination_by 4 * lexemes.length + 2

theorem readChain_reads
    (bindings : Variables) (depth floor : Nat) (lexemes : List Lexeme) (fits : depth ≤ maxDepth) :
    Reads ⟨depth, true⟩ ⟨depth, false⟩ lexemes (readChain bindings depth floor lexemes) := by
  rw [readChain_eq]
  refine (readSigned_reads bindings depth lexemes fits).bind ?_
  intro left rest read
  have shorter : rest.length < lexemes.length := length_lt_of_plain read
  exact readOperators_reads bindings depth floor left rest fits
termination_by 4 * lexemes.length + 3

end

theorem evaluateLexemes_stopsAt
    {bindings : Variables} {lexemes : List Lexeme} {error : EvalError} (nonempty : lexemes ≠ [])
    (failure : evaluateLexemes bindings lexemes = .error error) :
    StopsAt start lexemes error := by
  rw [evaluateLexemes_eq nonempty] at failure
  have reads := readChain_reads bindings 0 0 lexemes (Nat.zero_le maxDepth)
  cases outcome : readChain bindings 0 0 lexemes with
  | error other =>
      rw [outcome] at failure reads
      cases failure
      exact reads
  | ok reading =>
      obtain ⟨value, rest⟩ := reading
      rw [outcome] at failure reads
      obtain ⟨taken, shape, possible⟩ := reads
      have ends : EndsChain 0 rest := readChain_endsChain outcome
      rcases rest with _ | ⟨⟨offset, token⟩, after⟩
      · cases failure
      · cases failure
        refine ⟨taken, after, ⟨0, false⟩, shape, possible, fun _ => ?_⟩
        cases token with
        | operator operator => exact absurd (ends offset operator after rfl) (Nat.not_lt_zero _)
        | number | identifier | opening | closing => rfl

/-! ## Syntax errors -/

section Errors

variable {limit : Nat} {tokens : List Token} {reached : Progress}

theorem not_starts_of_impossible
    {found : Token} (read : start.afterAll limit tokens = some reached)
    (impossible : ∀ bound, reached.after bound found = none) (bound : Nat) :
    ¬ Starts bound (tokens ++ [found]) := by
  intro starts
  obtain ⟨last, possible⟩ := starts_iff.mp (starts.mono (Nat.le_max_right limit bound))
  rw [afterAll_append, afterAll_mono read (Nat.le_max_left limit bound), Option.bind_some,
    afterAll_cons, impossible] at possible
  cases possible

theorem not_derives_of_unfinished
    (read : start.afterAll limit tokens = some reached) (unfinished : reached ≠ ⟨0, false⟩)
    (bound : Nat) (tree : Expression) :
    ¬ Derives bound .expression tokens tree := by
  intro derivation
  have whole := derivation.afterAll_eq 0 (max limit bound) (by omega)
  have read := afterAll_mono read (Nat.le_max_left limit bound)
  exact unfinished (Option.some.inj (read.symm.trans whole))

/-- A parenthesis opens inside fewer others than are accepted if a well-formed expression starts with
it. -/
theorem openCount_lt_of_starts (starts : Starts limit (tokens ++ [.opening])) :
    openCount tokens < limit := by
  obtain ⟨last, possible⟩ := starts_iff.mp starts
  rw [afterAll_append] at possible
  obtain ⟨middle, read, opened⟩ := Option.bind_eq_some_iff.mp possible
  obtain ⟨next, entered, _⟩ := Option.bind_eq_some_iff.mp opened
  rw [openCount_eq read]
  rcases after_cases entered with ⟨opened, rfl, cases⟩ | ⟨opened, rfl, cases⟩
  · simp at cases
    exact cases.1
  · simp at cases

theorem Starts.of_append (more : List Token) (starts : Starts limit (tokens ++ more)) :
    Starts limit tokens := by
  obtain ⟨rest, tree, derivation⟩ := starts
  exact ⟨more ++ rest, tree, by rwa [← List.append_assoc]⟩

end Errors

/-- An unexpected token is the first with which no well-formed expression starts; an unexpected end comes
after tokens that start a well-formed expression and are none; and a parenthesis that is too deep is the
first one inside `maxDepth` open ones.  Tokens that form no expression within the limit have one of these
errors, unless a value fails before. -/
theorem syntax_errors_at_first_impossible_token
    (text : String) (bindings : Variables) (lexemes : List Lexeme)
    (scanned : scan text = .ok lexemes) :
    (∀ found offset,
      evaluate text bindings = .error (.unexpectedToken found offset) →
      ∃ before after, lexemes = before ++ ⟨offset, found⟩ :: after ∧
        Starts maxDepth (before.map Lexeme.token) ∧
        ∀ limit, ¬ Starts limit (before.map Lexeme.token ++ [found])) ∧
    (evaluate text bindings = .error .unexpectedEnd →
      (∃ more tree, more ≠ [] ∧
        Derives maxDepth .expression (lexemes.map Lexeme.token ++ more) tree) ∧
      ∀ limit tree, ¬ Derives limit .expression (lexemes.map Lexeme.token) tree) ∧
    (∀ offset,
      evaluate text bindings = .error (.tooDeep offset) →
      ∃ before after, lexemes = before ++ ⟨offset, .opening⟩ :: after ∧
        openCount (before.map Lexeme.token) = maxDepth ∧
        (∀ front place back, before = front ++ ⟨place, .opening⟩ :: back →
          openCount (front.map Lexeme.token) < maxDepth) ∧
        Starts maxDepth (before.map Lexeme.token)) ∧
    (lexemes ≠ [] →
      (¬ ∃ tree, Derives maxDepth .expression (lexemes.map Lexeme.token) tree) →
      ∃ error, evaluate text bindings = .error error ∧
        (error.concernsValue = true ∨ (∃ found offset, error = .unexpectedToken found offset) ∨
          error = .unexpectedEnd ∨ ∃ offset, error = .tooDeep offset)) := by
  have reduced : evaluate text bindings = evaluateLexemes bindings lexemes := by
    rw [evaluate, scanned]
  have stops (error : EvalError) (written : error ≠ .empty)
      (failure : evaluate text bindings = .error error) : StopsAt start lexemes error := by
    apply evaluateLexemes_stopsAt ?_ (reduced.symm.trans failure)
    rintro rfl
    exact written (Except.error.inj (failure.symm.trans reduced))
  refine ⟨?_, ?_, ?_, ?_⟩
  · intro found offset failure
    obtain ⟨before, after, reached, shape, read, impossible⟩ := stops _ (by simp) failure
    exact ⟨before, after, shape, starts_iff.mpr ⟨reached, read⟩,
      not_starts_of_impossible read impossible⟩
  · intro failure
    obtain ⟨reached, read, unfinished⟩ := stops _ (by simp) failure
    have none := not_derives_of_unfinished read unfinished
    obtain ⟨more, tree, derivation⟩ := starts_iff.mpr ⟨reached, read⟩
    refine ⟨⟨more, tree, ?_, derivation⟩, none⟩
    rintro rfl
    rw [List.append_nil] at derivation
    exact none maxDepth tree derivation
  · intro offset failure
    obtain ⟨before, after, shape, read⟩ := stops _ (by simp) failure
    have starts : Starts maxDepth (before.map Lexeme.token) := starts_iff.mpr ⟨_, read⟩
    refine ⟨before, after, shape, openCount_eq read, ?_, starts⟩
    rintro front place back rfl
    have upTo : Starts maxDepth (front.map Lexeme.token ++ [.opening]) :=
      Starts.of_append (back.map Lexeme.token) (by simpa using starts)
    exact openCount_lt_of_starts upTo
  · intro nonempty underivable
    cases outcome : evaluate text bindings with
    | ok value =>
        exact absurd (derives_of_evaluateLexemes nonempty (reduced.symm.trans outcome)) underivable
    | error error =>
        have stopped := evaluateLexemes_stopsAt nonempty (reduced.symm.trans outcome)
        refine ⟨error, rfl, ?_⟩
        cases error with
        | unexpectedToken found offset => exact Or.inr (Or.inl ⟨found, offset, rfl⟩)
        | unexpectedEnd => exact Or.inr (Or.inr (Or.inl rfl))
        | tooDeep offset => exact Or.inr (Or.inr (Or.inr ⟨offset, rfl⟩))
        | unknownVariable | notANumber | divisionByZero | overflow => exact Or.inl rfl
        | empty | unexpectedCharacter | invalidNumber => cases stopped

theorem syntax_errors_at_first_impossible_token_missing_factor :
    scan "(1+2* )" = .ok
      [⟨0, .opening⟩, ⟨1, .number 1⟩, ⟨2, .operator .add⟩, ⟨3, .number 2⟩, ⟨4, .operator .multiply⟩,
        ⟨6, .closing⟩] ∧
    evaluate "(1+2* )" Variables.empty = .error (.unexpectedToken .closing 6) ∧
    Starts maxDepth
      [.opening, .number 1, .operator .add, .number 2, .operator .multiply] ∧
    ∀ limit, ¬ Starts limit
      [.opening, .number 1, .operator .add, .number 2, .operator .multiply, .closing] := by
  have scanned : scan "(1+2* )" = .ok
      [⟨0, .opening⟩, ⟨1, .number 1⟩, ⟨2, .operator .add⟩, ⟨3, .number 2⟩, ⟨4, .operator .multiply⟩,
        ⟨6, .closing⟩] := by
    with_unfolding_all rfl
  have failure : evaluate "(1+2* )" Variables.empty = .error (.unexpectedToken .closing 6) := by
    rw [evaluate, scanned]
    simp (disch := decide) [evaluateLexemes_eq, readChain_eq, readSigned_eq, readOperand_opening,
      readOperators_operator, Operator.precedence, negate, maxDepth, Except.bind, Except.map]
  obtain ⟨before, after, shape, starts, none⟩ :=
    (syntax_errors_at_first_impossible_token _ _ _ scanned).1 .closing 6 failure
  have place : before = [⟨0, .opening⟩, ⟨1, .number 1⟩, ⟨2, .operator .add⟩, ⟨3, .number 2⟩,
      ⟨4, .operator .multiply⟩] := by
    simp [List.cons_eq_append_iff] at shape
    grind
  subst place
  exact ⟨scanned, failure, starts, none⟩

end ScriptDebugger
