import Mathlib.Tactic.NormNum.Ineq
import Mathlib.Tactic.NormNum.Pow
import ScriptDebugger.Proofs.Expression.Agreement

/-!
# Evaluation is exact integer arithmetic

An expression is evaluated between the least and the greatest signed integer, with a check at each
operation.  Its exact value is that of its syntax tree over all integers.  What evaluation returns is the
exact value, and it returns it whenever the exact values of all parts of the expression lie in the range;
only the remainder of the least integer by minus one overflows although it does.
-/

namespace ScriptDebugger

/-- Whether an integer is in the range of signed integers. -/
def InRange (value : Int) : Prop :=
  -2 ^ 63 ≤ value ∧ value < 2 ^ 63

/-! ## Decimal integers of any size -/

namespace Text

/-- The number that decimal digits write. -/
def digitsValue (value : Nat) (digits : List Char) : Nat :=
  digits.foldl (fun value digit => 10 * value + digitValue digit) value

/-- The number that characters write, if they are digits and at least one. -/
def exactMagnitude? (characters : List Char) : Option Nat :=
  if characters ≠ [] ∧ characters.all Char.isDigit = true then some (digitsValue 0 characters)
  else none

/-- The integer that characters write, with or without a sign. -/
def exactInteger? : List Char → Option Int
  | '+' :: digits => (exactMagnitude? digits).map Int.ofNat
  | '-' :: digits => (exactMagnitude? digits).map fun magnitude => -Int.ofNat magnitude
  | digits => (exactMagnitude? digits).map Int.ofNat

theorem exactMagnitude?_eq_some {characters : List Char} {value : Nat} :
    exactMagnitude? characters = some value ↔
      characters ≠ [] ∧ (∀ c ∈ characters, c.isDigit = true) ∧ digitsValue 0 characters = value := by
  rw [exactMagnitude?, Option.ite_none_right_eq_some, Option.some.injEq, List.all_eq_true, and_assoc]

theorem le_digitsValue (value : Nat) (digits : List Char) : value ≤ digitsValue value digits := by
  induction digits generalizing value with
  | nil => exact Nat.le_refl value
  | cons digit rest inductionHypothesis =>
      have later := inductionHypothesis (10 * value + digitValue digit)
      change value ≤ digitsValue (10 * value + digitValue digit) rest
      omega

/-- Digits are read if the number that they write is within the limit. -/
theorem readDigits_eq_ok
    {limit value result : Nat} {excess : IntegerError} {digits : List Char}
    (small : value ≤ limit) :
    readDigits limit excess value digits = .ok result ↔
      (∀ c ∈ digits, c.isDigit = true) ∧ digitsValue value digits = result ∧ result ≤ limit := by
  induction digits generalizing value with
  | nil =>
      constructor
      · intro read
        obtain rfl := Except.ok.inj read
        exact ⟨by simp, rfl, small⟩
      · rintro ⟨_, rfl, _⟩
        rfl
  | cons digit rest inductionHypothesis =>
      rw [List.forall_mem_cons]
      by_cases isDigit : digit.isDigit = true
      · by_cases fits : 10 * value + digitValue digit ≤ limit
        · rw [readDigits, if_pos isDigit, if_pos fits, inductionHypothesis fits, and_assoc]
          exact (and_iff_right isDigit).symm
        · simp only [readDigits, if_pos isDigit, if_neg fits, reduceCtorEq, false_iff]
          rintro ⟨_, rfl, within⟩
          exact fits ((le_digitsValue _ rest).trans within)
      · simp [readDigits, isDigit]

theorem readMagnitude_eq_ok
    {limit result : Nat} {excess : IntegerError} {digits : List Char} :
    readMagnitude limit excess digits = .ok result ↔
      exactMagnitude? digits = some result ∧ result ≤ limit := by
  cases digits with
  | nil => simp [readMagnitude, exactMagnitude?]
  | cons first rest =>
      rw [readMagnitude, readDigits_eq_ok (Nat.zero_le limit), exactMagnitude?_eq_some]
      · simp [and_assoc]
      · simp

theorem map_readMagnitude_eq_ok
    {limit : Nat} {excess : IntegerError} {digits : List Char} {signed : Nat → Int} {value : Int}
    (range : ∀ magnitude, magnitude ≤ limit ↔ InRange (signed magnitude)) :
    (readMagnitude limit excess digits).map signed = .ok value ↔
      (exactMagnitude? digits).map signed = some value ∧ InRange value := by
  constructor
  · intro read
    obtain ⟨magnitude, magnitudeRead, rfl⟩ := Except.map_eq_ok read
    obtain ⟨precise, within⟩ := readMagnitude_eq_ok.mp magnitudeRead
    exact ⟨congrArg (Option.map signed) precise, (range magnitude).mp within⟩
  · rintro ⟨written, bounds⟩
    obtain ⟨magnitude, precise, rfl⟩ := Option.map_eq_some_iff.mp written
    rw [readMagnitude_eq_ok.mpr ⟨precise, (range magnitude).mpr bounds⟩]
    rfl

/-- An integer is read if it is in the range of signed integers. -/
theorem readIntegerChars_eq_ok {characters : List Char} {value : Int} :
    readIntegerChars characters = .ok value ↔
      exactInteger? characters = some value ∧ InRange value := by
  have positive (magnitude : Nat) : magnitude ≤ greatestInteger ↔
      InRange (Int.ofNat magnitude) := by
    simp only [InRange, greatestInteger, Int.ofNat_eq_natCast]
    omega
  have negative (magnitude : Nat) : magnitude ≤ greatestInteger + 1 ↔
      InRange (-Int.ofNat magnitude) := by
    simp only [InRange, greatestInteger, Int.ofNat_eq_natCast]
    omega
  fun_cases readIntegerChars characters with
  | case1 => simp [exactInteger?, exactMagnitude?]
  | case2 digits => exact map_readMagnitude_eq_ok positive
  | case3 digits => exact map_readMagnitude_eq_ok negative
  | case4 _ _ plus minus =>
      rw [exactInteger?]
      · exact map_readMagnitude_eq_ok positive
      · exact plus
      · exact minus

end Text

/-! ## One operation -/

theorem inRange_iff {value : Int} :
    InRange value ↔ Text.leastInteger ≤ value ∧ value ≤ Text.greatestInteger := by
  simp only [InRange, Text.leastInteger, Text.greatestInteger]
  omega

theorem bounded_eq_ok {value result : Int} :
    bounded value = .ok result ↔ value = result ∧ InRange value := by
  rw [bounded, inRange_iff]
  split
  case isTrue inside => simp [inside]
  case isFalse outside => simp [outside]

theorem bounded_eq_error {value : Int} {error : EvalError} :
    bounded value = .error error ↔ error = .overflow ∧ ¬ InRange value := by
  rw [bounded, inRange_iff]
  split
  case isTrue inside => simp [inside]
  case isFalse outside => simp [outside, eq_comm]

/-- The value of an operator over all integers.  Division truncates toward zero. -/
def Operator.exactValue? (operator : Operator) (left right : Int) : Option Int :=
  match operator with
  | .add => some (left + right)
  | .subtract => some (left - right)
  | .multiply => some (left * right)
  | .divide => if right = 0 then none else some (left.tdiv right)
  | .remainder => if right = 0 then none else some (left.tmod right)

/-- The least integer by minus one is the only quotient out of range. -/
theorem inRange_tdiv
    {left right : Int} (inside : InRange left) (nonzero : right ≠ 0) :
    InRange (left.tdiv right) ↔ ¬ (left = -2 ^ 63 ∧ right = -1) := by
  unfold InRange at *
  by_cases one : right = 1
  · rw [one, Int.tdiv_one]
    omega
  · by_cases minusOne : right = -1
    · have negated : left.tdiv right = -left := by
        rw [minusOne, Int.tdiv_neg, Int.tdiv_one]
      rw [negated]
      omega
    · have half : (left.tdiv right).natAbs ≤ left.natAbs / 2 := by
        rw [Int.natAbs_tdiv]
        exact Nat.div_le_div_left (by omega) (by decide)
      omega

theorem inRange_tmod
    {right : Int} (left : Int) (inside : InRange right) (nonzero : right ≠ 0) :
    InRange (left.tmod right) := by
  unfold InRange at *
  have below : (left.tmod right).natAbs < right.natAbs := by
    rw [Int.natAbs_tmod]
    exact Nat.mod_lt _ (by omega)
  omega

section Apply

variable {operator : Operator} {left right : Int}

/-- An operation succeeds with its exact value, if this is in range and the operation is not the
remainder of the least integer by minus one. -/
theorem Operator.apply_eq_ok
    {value : Int} (leftInside : InRange left) (rightInside : InRange right) :
    operator.apply left right = .ok value ↔
      operator.exactValue? left right = some value ∧ InRange value ∧
        ¬ (operator = .remainder ∧ left = -2 ^ 63 ∧ right = -1) := by
  cases operator with
  | add | subtract | multiply =>
      simp only [apply, exactValue?, bounded_eq_ok, Option.some.injEq, reduceCtorEq, false_and,
        not_false_eq_true, and_true]
      exact and_congr_right fun same => same ▸ Iff.rfl
  | divide =>
      simp only [apply, exactValue?]
      split
      · simp
      · simp only [bounded_eq_ok, Option.some.injEq, reduceCtorEq, false_and, not_false_eq_true,
          and_true]
        exact and_congr_right fun same => same ▸ Iff.rfl
  | remainder =>
      simp only [apply, exactValue?]
      split
      · simp
      case isFalse nonzero =>
        have quotient := inRange_tdiv leftInside nonzero
        have remainder := inRange_tmod left rightInside nonzero
        constructor
        · intro success
          obtain ⟨result, divided, rfl⟩ := Except.map_eq_ok success
          exact ⟨rfl, remainder, fun least => quotient.mp (bounded_eq_ok.mp divided).2 least.2⟩
        · rintro ⟨same, _, other⟩
          obtain rfl := Option.some.inj same
          have divided := bounded_eq_ok.mpr
            ⟨rfl, quotient.mpr fun least => other ⟨trivial, least⟩⟩
          rw [divided]
          rfl

/-- An operation overflows if its exact value is out of range or it is the remainder of the least
integer by minus one. -/
theorem Operator.apply_eq_overflow
    (leftInside : InRange left) (overflow : operator.apply left right = .error .overflow) :
    (∃ value, operator.exactValue? left right = some value ∧ ¬ InRange value) ∨
      operator = .remainder ∧ left = -2 ^ 63 ∧ right = -1 := by
  cases operator with
  | add | subtract | multiply => exact Or.inl ⟨_, rfl, (bounded_eq_error.mp overflow).2⟩
  | divide =>
      simp only [apply] at overflow
      split at overflow
      · cases overflow
      case isFalse nonzero =>
        exact Or.inl ⟨_, if_neg nonzero, (bounded_eq_error.mp overflow).2⟩
  | remainder =>
      simp only [apply] at overflow
      split at overflow
      · cases overflow
      case isFalse nonzero =>
        refine Or.inr ⟨rfl, ?_⟩
        by_contra other
        have divided := bounded_eq_ok.mpr ⟨rfl, (inRange_tdiv leftInside nonzero).mpr other⟩
        rw [divided] at overflow
        cases overflow

end Apply

/-! ## Whole trees -/

/-- The integer that a variable holds, of any size, blanks around it ignored. -/
def Variables.exactInteger? (bindings : Variables) (name : String) : Option Int :=
  (bindings.get? name).bind fun text => Text.exactInteger? (Text.trim text).toList

theorem Variables.integer_eq_ok {bindings : Variables} {name : String} {value : Int} :
    bindings.integer name = .ok value ↔
      bindings.exactInteger? name = some value ∧ InRange value := by
  unfold integer exactInteger?
  cases bindings.get? name with
  | none => simp
  | some text =>
      rw [Option.bind_some, ← Text.readIntegerChars_eq_ok, ← Text.readInteger]
      dsimp only
      cases Text.readInteger (Text.trim text) <;> simp

theorem Variables.integer_ne_overflow (bindings : Variables) (name : String) :
    bindings.integer name ≠ .error .overflow := by
  unfold integer
  split
  · simp
  · split <;> simp

namespace Expression

/-- The value of a tree over all integers, if its variables hold integers and it divides by no zero. -/
def exactValue (bindings : Variables) : Expression → Option Int
  | .number value => some value
  | .identifier name => bindings.exactInteger? name
  | .negation operand => (operand.exactValue bindings).map fun value => -value
  | .binary operator left right =>
    (left.exactValue bindings).bind fun first =>
      (right.exactValue bindings).bind fun second => operator.exactValue? first second

/-- A tree and all its subtrees. -/
def parts : Expression → List Expression
  | .number value => [.number value]
  | .identifier name => [.identifier name]
  | .negation operand => .negation operand :: operand.parts
  | .binary operator left right => .binary operator left right :: (left.parts ++ right.parts)

/-- Whether the exact value of a part of the tree is out of range, or a part computes the remainder of
the least integer by minus one. -/
def Overflows (bindings : Variables) (tree : Expression) : Prop :=
  (∃ part ∈ tree.parts, ∃ value, part.exactValue bindings = some value ∧ ¬ InRange value) ∨
    ∃ left right, .binary .remainder left right ∈ tree.parts ∧
      left.exactValue bindings = some (-2 ^ 63) ∧ right.exactValue bindings = some (-1)

theorem mem_parts_self (tree : Expression) : tree ∈ tree.parts := by
  cases tree <;> exact List.mem_cons_self

/-- Whether every number that is written in the tree is in range. -/
def Bounded (tree : Expression) : Prop :=
  ∀ number : Nat, .number number ∈ tree.parts → InRange number

section Values

variable {bindings : Variables} {tree part operand left right : Expression} {operator : Operator}

theorem Overflows.mono
    (overflows : part.Overflows bindings) (within : part.parts ⊆ tree.parts) :
    tree.Overflows bindings := by
  rcases overflows with ⟨out, member, outside⟩ | ⟨left, right, member, least⟩
  · exact Or.inl ⟨out, within member, outside⟩
  · exact Or.inr ⟨left, right, within member, least⟩

theorem parts_negation : operand.parts ⊆ (negation operand).parts :=
  List.subset_cons_self _ _

theorem parts_left : left.parts ⊆ (binary operator left right).parts :=
  fun _ member => List.mem_cons_of_mem _ (List.mem_append_left _ member)

theorem parts_right : right.parts ⊆ (binary operator left right).parts :=
  fun _ member => List.mem_cons_of_mem _ (List.mem_append_right _ member)

/-- The value of a tree is its exact value and in range. -/
theorem exactValue_of_value
    {value : Int} (bounded : tree.Bounded) (success : tree.value bindings = .ok value) :
    tree.exactValue bindings = some value ∧ InRange value := by
  induction tree generalizing value with
  | number number =>
      obtain rfl := Except.ok.inj success
      exact ⟨rfl, bounded number List.mem_cons_self⟩
  | identifier name => exact Variables.integer_eq_ok.mp success
  | negation operand inductionHypothesis =>
      obtain ⟨inner, innerSuccess, negated⟩ := Except.bind_eq_ok success
      obtain ⟨innerExact, _⟩ :=
        inductionHypothesis (fun number member => bounded number (parts_negation member))
          innerSuccess
      obtain ⟨rfl, inside⟩ := bounded_eq_ok.mp negated
      exact ⟨by rw [exactValue, innerExact, Option.map_some], inside⟩
  | binary operator left right leftHypothesis rightHypothesis =>
      obtain ⟨first, leftSuccess, rest⟩ := Except.bind_eq_ok success
      obtain ⟨second, rightSuccess, applied⟩ := Except.bind_eq_ok rest
      obtain ⟨leftExact, leftInside⟩ :=
        leftHypothesis (fun number member => bounded number (parts_left member)) leftSuccess
      obtain ⟨rightExact, rightInside⟩ :=
        rightHypothesis (fun number member => bounded number (parts_right member)) rightSuccess
      obtain ⟨precise, inside, _⟩ := (Operator.apply_eq_ok leftInside rightInside).mp applied
      refine ⟨?_, inside⟩
      rw [exactValue, leftExact, Option.bind_some, rightExact, Option.bind_some, precise]

/-- An overflow comes from a part of the tree that overflows. -/
theorem overflows_of_value
    (bounded : tree.Bounded) (overflow : tree.value bindings = .error .overflow) :
    tree.Overflows bindings := by
  induction tree with
  | number number => cases overflow
  | identifier name => exact absurd overflow (bindings.integer_ne_overflow name)
  | negation operand inductionHypothesis =>
      have operandBounded : operand.Bounded :=
        fun number member => bounded number (parts_negation member)
      rw [value] at overflow
      cases result : operand.value bindings with
      | error error =>
          rw [result] at overflow
          obtain rfl := Except.error.inj overflow
          exact (inductionHypothesis operandBounded result).mono parts_negation
      | ok inner =>
          rw [result] at overflow
          obtain ⟨innerExact, _⟩ := exactValue_of_value operandBounded result
          refine Or.inl ⟨_, mem_parts_self _, -inner, ?_, (bounded_eq_error.mp overflow).2⟩
          rw [exactValue, innerExact, Option.map_some]
  | binary operator left right leftHypothesis rightHypothesis =>
      have leftBounded : left.Bounded := fun number member => bounded number (parts_left member)
      have rightBounded : right.Bounded := fun number member => bounded number (parts_right member)
      rw [value] at overflow
      -- An operand that fails is the failure of the whole, the left one before the right one.
      cases leftResult : left.value bindings with
      | error error =>
          rw [leftResult] at overflow
          obtain rfl := Except.error.inj overflow
          exact (leftHypothesis leftBounded leftResult).mono parts_left
      | ok first =>
          cases rightResult : right.value bindings with
          | error error =>
              rw [leftResult, rightResult] at overflow
              obtain rfl := Except.error.inj overflow
              exact (rightHypothesis rightBounded rightResult).mono parts_right
          | ok second =>
              rw [leftResult, rightResult] at overflow
              obtain ⟨leftExact, leftInside⟩ := exactValue_of_value leftBounded leftResult
              obtain ⟨rightExact, _⟩ := exactValue_of_value rightBounded rightResult
              rcases Operator.apply_eq_overflow leftInside overflow with
                ⟨result, precise, outside⟩ | ⟨rfl, rfl, rfl⟩
              · refine Or.inl ⟨_, mem_parts_self _, result, ?_, outside⟩
                rw [exactValue, leftExact, Option.bind_some, rightExact, Option.bind_some, precise]
              · exact Or.inr ⟨left, right, mem_parts_self _, leftExact, rightExact⟩

theorem inRange_of_not_overflows
    {value : Int} (stays : ¬ tree.Overflows bindings)
    (precise : tree.exactValue bindings = some value) :
    InRange value := by
  by_contra outside
  exact stays (Or.inl ⟨tree, tree.mem_parts_self, value, precise, outside⟩)

/-- A tree whose variables hold integers, that divides by no zero and of which no part overflows has its
exact value. -/
theorem value_of_exactValue
    (held : ∀ name, .identifier name ∈ tree.parts →
      ∃ value, bindings.exactInteger? name = some value)
    (divides : ∀ operator left right, .binary operator left right ∈ tree.parts →
      operator = .divide ∨ operator = .remainder → right.exactValue bindings ≠ some 0)
    (stays : ¬ tree.Overflows bindings) :
    ∃ value, tree.exactValue bindings = some value ∧ tree.value bindings = .ok value := by
  induction tree with
  | number number => exact ⟨number, rfl, rfl⟩
  | identifier name =>
      obtain ⟨value, precise⟩ := held name List.mem_cons_self
      exact ⟨value, precise,
        Variables.integer_eq_ok.mpr ⟨precise, inRange_of_not_overflows stays precise⟩⟩
  | negation operand inductionHypothesis =>
      obtain ⟨inner, innerExact, innerValue⟩ := inductionHypothesis
        (fun name member => held name (parts_negation member))
        (fun operator left right member => divides operator left right (parts_negation member))
        (fun overflows => stays (overflows.mono parts_negation))
      have precise : (negation operand).exactValue bindings = some (-inner) := by
        rw [exactValue, innerExact, Option.map_some]
      refine ⟨-inner, precise, ?_⟩
      rw [value, innerValue]
      exact bounded_eq_ok.mpr ⟨rfl, inRange_of_not_overflows stays precise⟩
  | binary operator left right leftHypothesis rightHypothesis =>
      have leftStays : ¬ left.Overflows bindings :=
        fun overflows => stays (overflows.mono parts_left)
      have rightStays : ¬ right.Overflows bindings :=
        fun overflows => stays (overflows.mono parts_right)
      obtain ⟨first, leftExact, leftValue⟩ := leftHypothesis
        (fun name member => held name (parts_left member))
        (fun operator left right member => divides operator left right (parts_left member))
        leftStays
      obtain ⟨second, rightExact, rightValue⟩ := rightHypothesis
        (fun name member => held name (parts_right member))
        (fun operator left right member => divides operator left right (parts_right member))
        rightStays
      have nonzero : operator = .divide ∨ operator = .remainder → second ≠ 0 := by
        rintro division rfl
        exact divides operator left right (mem_parts_self _) division rightExact
      obtain ⟨result, applied⟩ : ∃ result, operator.exactValue? first second = some result := by
        cases operator with
        | add | subtract | multiply => exact ⟨_, rfl⟩
        | divide => exact ⟨_, if_neg (nonzero (Or.inl rfl))⟩
        | remainder => exact ⟨_, if_neg (nonzero (Or.inr rfl))⟩
      have precise : (binary operator left right).exactValue bindings = some result := by
        rw [exactValue, leftExact, Option.bind_some, rightExact, Option.bind_some, applied]
      have other : ¬ (operator = .remainder ∧ first = -2 ^ 63 ∧ second = -1) := by
        rintro ⟨rfl, rfl, rfl⟩
        exact stays (Or.inr ⟨left, right, mem_parts_self _, leftExact, rightExact⟩)
      refine ⟨result, precise, ?_⟩
      rw [value, leftValue, rightValue]
      exact (Operator.apply_eq_ok (inRange_of_not_overflows leftStays leftExact)
        (inRange_of_not_overflows rightStays rightExact)).mpr
          ⟨applied, inRange_of_not_overflows stays precise, other⟩

end Values

end Expression

/-! ## Numbers that are written in a text -/

theorem Token.ofDigits_inRange
    {digits : List Char} {token : Token} {number : Nat} (success : Token.ofDigits digits = .ok token)
    (written : token = .number number) :
    InRange number := by
  unfold ofDigits at success
  split at success
  case h_1 value read =>
    obtain rfl := Except.ok.inj success
    obtain rfl := Token.number.inj written
    have within := ((Text.readDigits_eq_ok (Nat.zero_le _)).mp read).2.2
    rw [inRange_iff]
    simp only [Text.leastInteger]
    omega
  case h_2 => cases success

theorem Token.read_inRange
    {offset : Nat} {first : Char} {rest : List Char} {reading : Token.Reading} {number : Nat}
    (success : Token.read offset first rest = .ok reading)
    (written : reading.token = .number number) :
    InRange number := by
  unfold Token.read at success
  split at success
  case h_1 token single =>
    obtain rfl := Except.ok.inj success
    unfold Token.ofCharacter? at single
    split at single <;> simp_all
  case h_2 =>
    split at success
    · split at success
      case h_1 token digits =>
        obtain rfl := Except.ok.inj success
        exact Token.ofDigits_inRange digits written
      case h_2 => cases success
    · split at success
      · obtain rfl := Except.ok.inj success
        cases written
      · cases success

/-- The numbers that are scanned are in range. -/
theorem scanFrom_inRange
    {offset : Nat} {found : Array Lexeme} {characters : List Char} {lexemes : Array Lexeme}
    (success : scanFrom offset found characters = .ok lexemes)
    (before : ∀ lexeme ∈ found, ∀ number, lexeme.token = .number number → InRange (number : Nat)) :
    ∀ lexeme ∈ lexemes, ∀ number, lexeme.token = .number number → InRange (number : Nat) := by
  fun_induction scanFrom offset found characters with
  | case1 offset found =>
      obtain rfl := Except.ok.inj success
      exact before
  | case2 offset found first rest blank inductionHypothesis =>
      exact inductionHypothesis success before
  | case3 => cases success
  | case4 offset found first rest solid reading read inductionHypothesis =>
      refine inductionHypothesis success ?_
      intro lexeme member number written
      rcases Array.mem_push.mp member with earlier | rfl
      · exact before lexeme earlier number written
      · exact Token.read_inRange read written

theorem scan_inRange
    {text : String} {lexemes : List Lexeme} (scanned : scan text = .ok lexemes)
    {number : Nat} (member : .number number ∈ lexemes.map Lexeme.token) :
    InRange number := by
  obtain ⟨found, success, rfl⟩ := Except.map_eq_ok scanned
  obtain ⟨lexeme, lexemeMember, written⟩ := List.mem_map.mp member
  exact scanFrom_inRange success (by simp) lexeme (Array.mem_toList_iff.mp lexemeMember) number written

/-- The numbers in a tree are those of its tokens. -/
theorem Derives.number_mem
    {limit : Nat} {category : Category} {tokens : List Token} {tree : Expression} {number : Nat}
    (derivation : Derives limit category tokens tree)
    (member : .number number ∈ tree.parts) :
    .number number ∈ tokens := by
  induction derivation with
  | number limit value => simpa [Expression.parts] using member
  | identifier limit name => simp [Expression.parts] at member
  | group _ inductionHypothesis => simp [inductionHypothesis member]
  | primary _ inductionHypothesis => exact inductionHypothesis member
  | negation _ inductionHypothesis =>
      have inner := (List.mem_cons.mp member).resolve_left (by simp)
      exact List.mem_cons_of_mem _ (inductionHypothesis inner)
  | unary _ inductionHypothesis => exact inductionHypothesis member
  | term _ inductionHypothesis => exact inductionHypothesis member
  | product _ _ _ leftHypothesis rightHypothesis
  | sum _ _ _ leftHypothesis rightHypothesis =>
      have inner := (List.mem_cons.mp member).resolve_left (by simp)
      rcases List.mem_append.mp inner with left | right
      · exact List.mem_append_left _ (leftHypothesis left)
      · exact List.mem_append_right _ (List.mem_cons_of_mem _ (rightHypothesis right))

/-! ## Whole expressions -/

/-- `Parses text limit tree` means that the text is a well-formed expression with this syntax tree, in
which at most `limit` parentheses are open at once. -/
def Parses (text : String) (limit : Nat) (tree : Expression) : Prop :=
  ∃ lexemes, scan text = .ok lexemes ∧ Derives limit .expression (lexemes.map Lexeme.token) tree

section Whole

variable {text : String} {limit : Nat} {tree : Expression}

theorem Derives.tokens_ne_nil
    {category : Category} {tokens : List Token} (derivation : Derives limit category tokens tree) :
    tokens ≠ [] := by
  induction derivation <;> simp_all

theorem Parses.bounded (parses : Parses text limit tree) : tree.Bounded := by
  obtain ⟨lexemes, scanned, derivation⟩ := parses
  exact fun number member => scan_inRange scanned (derivation.number_mem member)

theorem Parses.evaluate_meets (parses : Parses text limit tree) (bindings : Variables) :
    Meets (maxDepth < limit) (evaluate text bindings) (tree.value bindings) := by
  obtain ⟨lexemes, scanned, derivation⟩ := parses
  have nonempty : lexemes ≠ [] := by
    rintro rfl
    exact derivation.tokens_ne_nil rfl
  rw [evaluate, scanned]
  exact evaluateLexemes_meets nonempty derivation

theorem parses_of_evaluate
    {bindings : Variables} {value : Int} (success : evaluate text bindings = .ok value) :
    ∃ tree, Parses text maxDepth tree := by
  unfold evaluate at success
  split at success
  case h_1 => cases success
  case h_2 lexemes scanned =>
    have nonempty : lexemes ≠ [] := by
      rintro rfl
      cases success
    obtain ⟨tree, derivation⟩ := derives_of_evaluateLexemes nonempty success
    exact ⟨tree, lexemes, scanned, derivation⟩

end Whole

/-- What evaluation returns is in range and the exact value of the expression, which is well formed.  A
well-formed expression with no more open parentheses than are accepted, whose variables hold integers,
that divides by no zero and of which no part overflows evaluates to its exact value.  And a well-formed
expression overflows only if a part of it does. -/
theorem evaluation_exact (text : String) (bindings : Variables) :
    (∀ value,
      evaluate text bindings = .ok value →
      InRange value ∧
        (∃ tree, Parses text maxDepth tree) ∧
        ∀ limit tree, Parses text limit tree → tree.exactValue bindings = some value) ∧
      (∀ tree,
        Parses text maxDepth tree →
        (∀ name, .identifier name ∈ tree.parts →
          ∃ value, bindings.exactInteger? name = some value) →
        (∀ operator left right, .binary operator left right ∈ tree.parts →
          operator = .divide ∨ operator = .remainder → right.exactValue bindings ≠ some 0) →
        ¬ tree.Overflows bindings →
        ∃ value,
          tree.exactValue bindings = some value ∧ evaluate text bindings = .ok value) ∧
      ∀ limit tree,
        Parses text limit tree →
        evaluate text bindings = .error .overflow →
        tree.Overflows bindings := by
  refine ⟨?_, ?_, ?_⟩
  · intro value success
    have precise (limit : Nat) (tree : Expression) (parses : Parses text limit tree) :
        tree.exactValue bindings = some value ∧ InRange value := by
      rcases parses.evaluate_meets bindings with same | ⟨_, offset, tooDeep⟩
      · exact Expression.exactValue_of_value parses.bounded (same.symm.trans success)
      · rw [tooDeep] at success
        cases success
    obtain ⟨tree, parses⟩ := parses_of_evaluate success
    exact ⟨(precise maxDepth tree parses).2, ⟨tree, parses⟩,
      fun limit tree parses => (precise limit tree parses).1⟩
  · intro tree parses held divides stays
    obtain ⟨value, precise, success⟩ := Expression.value_of_exactValue held divides stays
    exact ⟨value, precise, ((parses.evaluate_meets bindings).eq (Nat.lt_irrefl maxDepth)).trans success⟩
  · intro limit tree parses overflow
    rcases parses.evaluate_meets bindings with same | ⟨_, offset, tooDeep⟩
    · exact Expression.overflows_of_value parses.bounded (same.symm.trans overflow)
    · rw [tooDeep] at overflow
      cases overflow

/-- The least integer can be halved; its remainder by minus one overflows, although it is zero. -/
theorem evaluation_exact_least_integer :
    ∃ (bindings : Variables) (halved remainder : Expression),
      bindings = Variables.empty.insert "x" "-9223372036854775808" ∧
        halved = .binary .divide (.identifier "x") (.number 2) ∧
        remainder = .binary .remainder (.identifier "x") (.negation (.number 1)) ∧
        Parses "x/2" maxDepth halved ∧
        ¬ halved.Overflows bindings ∧
        evaluate "x/2" bindings = .ok (-4611686018427387904) ∧
        Parses "x%-1" maxDepth remainder ∧
        remainder.exactValue bindings = some 0 ∧
        evaluate "x%-1" bindings = .error .overflow ∧
        remainder.Overflows bindings := by
  let bindings := Variables.empty.insert "x" "-9223372036854775808"
  let halved : Expression := .binary .divide (.identifier "x") (.number 2)
  let remainder : Expression := .binary .remainder (.identifier "x") (.negation (.number 1))
  have held : bindings.integer "x" = .ok (-9223372036854775808) := by rfl
  have least := (Variables.integer_eq_ok.mp held).1
  have halvedParses : Parses "x/2" maxDepth halved := by
    refine ⟨[⟨0, .identifier "x"⟩, ⟨1, .operator .divide⟩, ⟨2, .number 2⟩],
      by with_unfolding_all rfl, ?_⟩
    exact (Derives.product (Derives.identifier maxDepth "x").primary.unary rfl
      (Derives.number maxDepth 2).primary).term
  have remainderParses : Parses "x%-1" maxDepth remainder := by
    refine ⟨[⟨0, .identifier "x"⟩, ⟨1, .operator .remainder⟩, ⟨2, .operator .subtract⟩,
      ⟨3, .number 1⟩], by with_unfolding_all rfl, ?_⟩
    exact (Derives.product (Derives.identifier maxDepth "x").primary.unary rfl
      (Derives.number maxDepth 1).primary.negation).term
  have stays : ¬ halved.Overflows bindings := by
    rintro (⟨part, member, value, precise, outside⟩ | ⟨left, right, member, _⟩)
    · simp only [halved, Expression.parts, List.cons_append, List.nil_append, List.mem_cons,
        List.not_mem_nil, or_false] at member
      rcases member with rfl | rfl | rfl
      all_goals
        simp [Expression.exactValue, least, Operator.exactValue?] at precise
        subst precise
        exact outside (by norm_num [InRange])
    · simp [halved, Expression.parts] at member
  have overflow : evaluate "x%-1" bindings = .error .overflow := by
    rw [(remainderParses.evaluate_meets _).eq (Nat.lt_irrefl maxDepth)]
    rw [Expression.value, Expression.value, held]
    rfl
  have divides : ∀ operator left right, .binary operator left right ∈ halved.parts →
      operator = .divide ∨ operator = .remainder → right.exactValue bindings ≠ some 0 := by
    intro operator left right member _
    obtain ⟨_, _, rfl⟩ : operator = .divide ∧ left = .identifier "x" ∧ right = .number 2 := by
      simpa [halved, Expression.parts] using member
    simp [Expression.exactValue]
  obtain ⟨value, precise, success⟩ := (evaluation_exact "x/2" bindings).2.1 halved halvedParses
    (by simp [halved, Expression.parts, least]) divides stays
  have same : value = -4611686018427387904 := by
    simpa [halved, Expression.exactValue, least, Operator.exactValue?, eq_comm] using precise
  refine ⟨bindings, halved, remainder, rfl, rfl, rfl, halvedParses, stays, same ▸ success,
    remainderParses, ?_, overflow,
    (evaluation_exact "x%-1" bindings).2.2 _ remainder remainderParses overflow⟩
  simp [remainder, Expression.exactValue, least, Operator.exactValue?]

end ScriptDebugger
