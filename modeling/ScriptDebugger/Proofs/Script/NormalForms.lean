import ScriptDebugger.Proofs.Expression.Scanning
import ScriptDebugger.Proofs.Script.References

/-!
# Coerced texts are normal forms

Blanks around an expression do not change its syntax tree, and the decimal text of an integer evaluates to
it, except for the least one, whose magnitude is no number.  So a coerced text without an opening of a
reference is coerced to itself.
-/

namespace ScriptDebugger

open Text

/-! ## Blanks around an expression -/

section Blanks

variable {rest characters : List Char} {offset : Nat} {words : List Word}

/-- The same tokens are scanned wherever the characters stand. -/
theorem Scans.moved (scans : Scans rest offset characters words) (other : Nat) :
    ∃ moved, Scans rest other characters moved ∧ moved.map Word.token = words.map Word.token := by
  induction scans generalizing other with
  | done => exact ⟨[], .done other, rfl⟩
  | @blank offset c characters words isBlank _ inductionHypothesis =>
      obtain ⟨moved, scans, same⟩ := inductionHypothesis (other + c.utf8Size)
      exact ⟨moved, .blank isBlank scans, same⟩
  | @word characters words word spelled ends _ inductionHypothesis =>
      obtain ⟨moved, scans, same⟩ := inductionHypothesis (other + byteLength word.text.toList)
      refine ⟨⟨other, word.text, word.token⟩ :: moved, ?_, ?_⟩
      · exact .word ⟨other, word.text, word.token⟩ spelled ends scans
      · rw [List.map_cons, List.map_cons, same]

theorem Scans.of_blank
    {c : Char} (blank : isBlank c = true) (scans : Scans rest offset (c :: characters) words) :
    Scans rest (offset + c.utf8Size) characters words := by
  generalize whole : c :: characters = text at scans
  cases scans with
  | done => cases whole
  | blank _ scans =>
      obtain ⟨rfl, rfl⟩ := List.cons.inj whole
      exact scans
  | word word spelled =>
      -- A word starts with no blank.
      obtain ⟨first, others, shape, solid⟩ := spelled.cons
      rw [shape] at whole
      obtain ⟨rfl, _⟩ := List.cons.inj whole
      exact absurd rfl (ne_of_isBlank blank solid)

theorem Scans.of_blanks
    {gap : List Char} (blank : AllBlank gap) (scans : Scans rest offset (gap ++ characters) words) :
    Scans rest (offset + byteLength gap) characters words := by
  induction gap generalizing offset with
  | nil => exact scans
  | cons c gap inductionHypothesis =>
      obtain ⟨first, later⟩ := blank.of_cons
      rw [byteLength_cons, ← Nat.add_assoc]
      exact inductionHypothesis later (scans.of_blank first)

end Blanks

section Parses

variable {limit : Nat} {tree : Expression}

theorem parses_iff {text : String} :
    Parses text limit tree ↔
      ∃ words, Scans [] 0 text.toList words ∧ Derives limit .expression (words.map Word.token) tree := by
  constructor
  · rintro ⟨lexemes, scanned, derivation⟩
    obtain ⟨words, scans, rfl⟩ := scan_eq_ok.mp scanned
    rw [List.map_map] at derivation
    exact ⟨words, scans, derivation⟩
  · rintro ⟨words, scans, derivation⟩
    refine ⟨words.map Word.lexeme, scan_eq_ok.mpr ⟨words, scans, rfl⟩, ?_⟩
    rw [List.map_map]
    exact derivation

/-- A text is an expression if it is one without the blanks at its ends, with the same syntax tree. -/
theorem parses_trim {text : String} : Parses (trim text) limit tree ↔ Parses text limit tree := by
  obtain ⟨before, after, blankBefore, blankAfter, parts⟩ := exists_blanks_around text.toList
  have scanned : scan text = scan (String.ofList (before ++ trimChars text.toList)) := by
    have cut := scanFrom_append 0 #[] (before ++ trimChars text.toList) blankAfter
    rw [List.append_assoc, ← parts] at cut
    rw [scan, scan, String.toList_ofList, cut]
  have front :
      Parses text limit tree ↔
        Parses (String.ofList (before ++ trimChars text.toList)) limit tree := by
    rw [Parses, Parses, scanned]
  rw [front, parses_iff, parses_iff, trim, String.toList_ofList, String.toList_ofList]
  constructor
  · rintro ⟨words, scans, derivation⟩
    obtain ⟨moved, scans, same⟩ := scans.moved (0 + byteLength before)
    rw [← same] at derivation
    exact ⟨moved, scans.blanks blankBefore, derivation⟩
  · rintro ⟨words, scans, derivation⟩
    obtain ⟨moved, scans, same⟩ := (scans.of_blanks blankBefore).moved 0
    rw [← same] at derivation
    exact ⟨moved, scans, derivation⟩

end Parses

theorem evaluate_eq_ok {text : String} {bindings : Variables} {value : Int} :
    evaluate text bindings = .ok value ↔
      ∃ tree, Parses text maxDepth tree ∧ tree.value bindings = .ok value := by
  have agrees {tree : Expression} (parses : Parses text maxDepth tree) :
      evaluate text bindings = tree.value bindings :=
    (parses.evaluate_meets bindings).eq (Nat.lt_irrefl maxDepth)
  constructor
  · intro success
    obtain ⟨tree, parses⟩ := parses_of_evaluate success
    exact ⟨tree, parses, (agrees parses).symm.trans success⟩
  · rintro ⟨tree, parses, success⟩
    exact (agrees parses).trans success

/-- Blanks at the ends of a text do not change what it evaluates to, nor whether it does. -/
theorem evaluate_trim {text : String} {bindings : Variables} {value : Int} :
    evaluate (trim text) bindings = .ok value ↔ evaluate text bindings = .ok value := by
  simp only [evaluate_eq_ok, parses_trim]

theorem inRange_of_evaluate
    {text : String} {bindings : Variables} {value : Int}
    (success : evaluate text bindings = .ok value) : InRange value := by
  obtain ⟨tree, parses, computed⟩ := evaluate_eq_ok.mp success
  exact (Expression.exactValue_of_value parses.bounded computed).2

/-! ## Decimal texts -/

theorem decimal_characters (value : Int) :
    ∀ c ∈ (decimal value).toList, c = '-' ∨ c.isDigit = true := by
  intro c member
  cases value with
  | ofNat magnitude =>
      rw [decimal, String.toList_ofList] at member
      exact Or.inr (isDigit_of_mem_toDigits c member)
  | negSucc predecessor =>
      rw [decimal, String.toList_ofList, List.mem_cons] at member
      rcases member with sign | digit
      · exact Or.inl sign
      · exact Or.inr (isDigit_of_mem_toDigits c digit)

theorem isBlank_of_mem_decimal (value : Int) :
    ∀ c ∈ (decimal value).toList, isBlank c = false := by
  intro c member
  by_contra blank
  rw [Bool.not_eq_false] at blank
  rcases decimal_characters value c member with rfl | digit
  · revert blank
    decide
  · rw [isDigit_of_isBlank blank] at digit
    cases digit

theorem not_opener_decimal (value : Int) : ¬ opener <:+: (decimal value).toList := by
  intro inside
  have member : '$' ∈ (decimal value).toList := inside.subset (by decide)
  rcases decimal_characters value '$' member with sign | digit
  · revert sign
    decide
  · revert digit
    decide

theorem exactInteger?_decimal (value : Int) : exactInteger? (decimal value).toList = some value := by
  cases value with
  | ofNat magnitude =>
      rw [decimal, String.toList_ofList, exactInteger?, exactMagnitude?_toDigits]
      · rfl
      all_goals
        intro digits shape
        have sign := isDigit_of_mem_toDigits _ (shape ▸ List.mem_cons_self)
        revert sign
        decide
  | negSucc predecessor =>
      rw [decimal, String.toList_ofList, exactInteger?, exactMagnitude?_toDigits]
      rfl

theorem readInteger_decimal {value : Int} (range : InRange value) :
    readInteger (trim (decimal value)) = .ok value := by
  rw [readInteger, trim, String.toList_ofList, trimChars_of_solid (isBlank_of_mem_decimal value)]
  exact readIntegerChars_eq_ok.mpr ⟨exactInteger?_decimal value, range⟩

theorem scans_token {token : Token} (writable : token.Writable) (offset : Nat) :
    Scans [] offset token.text.toList [⟨offset, token.text, token⟩] := by
  have scans : Scans [] offset (token.text.toList ++ []) [⟨offset, token.text, token⟩] :=
    .word ⟨offset, token.text, token⟩ writable.spelledBy token.endsBefore_nil (.done _)
  rwa [List.append_nil] at scans

/-- The decimal text of an integer is a number, with a minus sign below zero. -/
theorem exists_signed {value : Int} (range : InRange value) (greater : value ≠ -2 ^ 63) :
    ∃ words operand, Scans [] 0 (decimal value).toList words ∧
      (∀ limit, Derives limit .unary (words.map Word.token) operand) ∧
        ∀ bindings, operand.value bindings = .ok value := by
  cases value with
  | ofNat magnitude =>
      have small : magnitude < 2 ^ 63 := by
        have upper := range.2
        rw [Int.ofNat_eq_natCast] at upper
        omega
      have digits := scans_token (show Token.Writable (.number magnitude) from small) 0
      exact ⟨_, _, digits, fun limit => (Derives.number limit magnitude).primary, fun _ => rfl⟩
  | negSucc predecessor =>
      have small : predecessor + 1 < 2 ^ 63 := by
        have lower := range.1
        rw [Int.negSucc_eq] at lower greater
        omega
      have digits := scans_token (show Token.Writable (.number (predecessor + 1)) from small) 1
      have signed := Scans.word ⟨0, "-", .operator .subtract⟩ rfl (fun _ _ => rfl) digits
      have characters : (decimal (.negSucc predecessor)).toList =
          "-".toList ++ (Token.number (predecessor + 1)).text.toList := by
        simp [decimal, Token.text]
      have negated : -((predecessor + 1 : Nat) : Int) = Int.negSucc predecessor := rfl
      rw [← characters] at signed
      refine ⟨_, _, signed, fun limit => (Derives.number limit (predecessor + 1)).primary.negation, ?_⟩
      intro bindings
      rw [Expression.value, Expression.value, Except.bind, negated, bounded_eq_ok]
      exact ⟨rfl, range⟩

theorem ofDigits_large {magnitude : Nat} (large : 2 ^ 63 ≤ magnitude) :
    Token.ofDigits (Nat.toDigits 10 magnitude) =
      .error (.invalidNumber (String.ofList (Nat.toDigits 10 magnitude))) := by
  cases outcome : Token.ofDigits (Nat.toDigits 10 magnitude) with
  | error error => rw [(Token.ofDigits_eq_error isDigit_of_mem_toDigits outcome).1]
  | ok token =>
      obtain ⟨value, rfl, same, small⟩ := (Token.ofDigits_eq_ok Nat.toDigits_ne_nil).mp outcome
      obtain rfl := Option.some.inj ((exactMagnitude?_toDigits magnitude).symm.trans same)
      exact absurd small (Nat.not_lt.mpr large)

theorem scan_negative_large {magnitude : Nat} (large : 2 ^ 63 ≤ magnitude) :
    scan (String.ofList ('-' :: Nat.toDigits 10 magnitude)) =
      .error (.invalidNumber (String.ofList (Nat.toDigits 10 magnitude))) := by
  have failed := ofDigits_large large
  have all : ∀ c ∈ Nat.toDigits 10 magnitude, c.isDigit = true := isDigit_of_mem_toDigits
  have nonempty : Nat.toDigits 10 magnitude ≠ [] := Nat.toDigits_ne_nil
  obtain ⟨first, rest, shape⟩ := List.exists_cons_of_ne_nil nonempty
  rw [shape] at all failed ⊢
  have start : first.isDigit = true := all first List.mem_cons_self
  have later : rest.takeWhile Char.isDigit = rest :=
    List.takeWhile_eq_self_iff.mpr fun c member => all c (List.mem_cons_of_mem _ member)
  have solid : ¬ isBlank first = true := by
    intro blank
    rw [isDigit_of_isBlank blank] at start
    cases start
  have read : Token.read 1 first rest = .error (.invalidNumber (String.ofList (first :: rest))) := by
    simp only [Token.read, Token.ofCharacter?_of_isDigit start, start, if_true, later, failed]
  have sign : Token.read 0 '-' (first :: rest) = .ok ⟨.operator .subtract, ['-'], first :: rest⟩ := rfl
  have after : 0 + byteLength ['-'] = 1 := rfl
  rw [scan, String.toList_ofList, scanFrom_solid 0 #[] _ (by decide), sign]
  simp only [Except.bind, after]
  rw [scanFrom_solid 1 _ _ solid, read]
  rfl

theorem evaluate_decimal
    {value : Int} (range : InRange value) (greater : value ≠ -2 ^ 63) (bindings : Variables) :
    evaluate (decimal value) bindings = .ok value := by
  obtain ⟨words, operand, scans, derives, computed⟩ := exists_signed range greater
  exact evaluate_eq_ok.mpr
    ⟨operand, parses_iff.mpr ⟨words, scans, (derives maxDepth).unary.term⟩, computed bindings⟩

/-- The magnitude of the least integer is no number, so its text cannot be scanned. -/
theorem evaluate_decimal_least (bindings : Variables) :
    evaluate (decimal (-2 ^ 63)) bindings = .error (.invalidNumber "9223372036854775808") := by
  have text : decimal (-2 ^ 63) = String.ofList ('-' :: Nat.toDigits 10 (2 ^ 63)) := by
    decide +kernel
  have digits : String.ofList (Nat.toDigits 10 (2 ^ 63)) = "9223372036854775808" := by decide +kernel
  rw [text, evaluate, scan_negative_large (Nat.le_refl _), digits]

/-! ## Normal forms -/

theorem substituteFrom_of_not_opener
    {text : List Char} (none : ¬ opener <:+: text) (bindings : Variables) (reversed : List Char) :
    substituteFrom bindings reversed text = reversed.reverse ++ text := by
  rw [(Cuts.plain none).substituteFrom_eq]
  simp [Piece.filled, Piece.source]

theorem substitute_of_not_opener
    {text : String} (none : ¬ opener <:+: text.toList) (bindings : Variables) :
    substitute text bindings = text := by
  rw [substitute, substituteFrom_of_not_opener none]
  simp

/-- A trimmed text that refers to nothing and evaluates only to its own integer is coerced to itself. -/
theorem coerce_eq_self
    {text : String} {bindings : Variables} (none : ¬ opener <:+: text.toList)
    (trimmed : Trimmed text.toList)
    (written : ∀ value, evaluate text bindings = .ok value → decimal value = text) :
    coerce text bindings = text := by
  simp only [coerce, substitute_of_not_opener none bindings]
  split
  case h_1 value success => exact written value success
  case h_2 => rw [trim, trimmed.trimChars_eq, String.ofList_toList]

theorem coerce_decimal {value : Int} (range : InRange value) (bindings : Variables) :
    coerce (decimal value) bindings = decimal value := by
  apply coerce_eq_self (not_opener_decimal value) (trimmed_of_solid (isBlank_of_mem_decimal value))
  intro result success
  by_cases least : value = -2 ^ 63
  · rw [least, evaluate_decimal_least] at success
    cases success
  · rw [evaluate_decimal range least] at success
    rw [Except.ok.inj success]

/-- A coerced text is the decimal text of an integer in range or a trimmed text that evaluates to
nothing. -/
theorem coerce_cases (value : String) (bindings : Variables) :
    (∃ integer, InRange integer ∧ coerce value bindings = decimal integer) ∨
      Trimmed (coerce value bindings).toList ∧
        ∀ integer, evaluate (coerce value bindings) bindings ≠ .ok integer := by
  unfold coerce
  simp only
  split
  case h_1 integer success => exact Or.inl ⟨integer, inRange_of_evaluate success, rfl⟩
  case h_2 error failure =>
    refine Or.inr ⟨?_, ?_⟩
    · rw [trim, String.toList_ofList]
      exact trimmed_trimChars _
    · intro integer success
      rw [evaluate_trim, failure] at success
      cases success

/-- A coerced text has no blank at its ends, and it is coerced to itself unless it opens a reference.  The
decimal text of every integer in range is coerced to itself and evaluates to the integer; only that of the
least integer does not, because its magnitude is no number. -/
theorem coerced_texts_normal :
    (∀ value bindings,
      Trimmed (coerce value bindings).toList ∧
        (¬ opener <:+: (coerce value bindings).toList →
          coerce (coerce value bindings) bindings = coerce value bindings)) ∧
    ∀ integer,
      InRange integer →
      ∀ bindings,
        coerce (decimal integer) bindings = decimal integer ∧
          evaluate (decimal integer) bindings =
            if integer = -2 ^ 63 then .error (.invalidNumber "9223372036854775808")
            else .ok integer := by
  refine ⟨?_, ?_⟩
  · intro value bindings
    rcases coerce_cases value bindings with ⟨integer, range, same⟩ | ⟨trimmed, other⟩
    · rw [same]
      exact ⟨trimmed_of_solid (isBlank_of_mem_decimal integer), fun _ => coerce_decimal range bindings⟩
    · refine ⟨trimmed, fun none => coerce_eq_self none trimmed ?_⟩
      intro integer success
      exact absurd success (other integer)
  · intro integer range bindings
    refine ⟨coerce_decimal range bindings, ?_⟩
    by_cases least : integer = -2 ^ 63
    · rw [if_pos least, least, evaluate_decimal_least]
    · rw [if_neg least, evaluate_decimal range least]

/-- A question is no expression, so it is kept as a text, and so is the least integer. -/
theorem coerced_texts_normal_question :
    coerce " $\x7bx\x7d? " (.ofList [("x", "a b")]) = "a b?" ∧
      coerce "a b?" (.ofList [("x", "a b")]) = "a b?" ∧
      InRange (-2 ^ 63) ∧
      coerce (decimal (-2 ^ 63)) .empty = decimal (-2 ^ 63) ∧
      evaluate (decimal (-2 ^ 63)) .empty = .error (.invalidNumber "9223372036854775808") := by
  have replaced : substitute " $\x7bx\x7d? " (.ofList [("x", "a b")]) = " a b? " := by
    with_unfolding_all rfl
  have failure : scan " a b? " = .error (.unexpectedCharacter '?' 4) := by with_unfolding_all rfl
  have kept : coerce " $\x7bx\x7d? " (.ofList [("x", "a b")]) = "a b?" := by
    simp only [coerce, replaced, evaluate, failure]
    decide +kernel
  have again := (coerced_texts_normal.1 " $\x7bx\x7d? " (.ofList [("x", "a b")])).2
  rw [kept] at again
  have range : InRange (-2 ^ 63) := by norm_num [InRange]
  obtain ⟨same, error⟩ := coerced_texts_normal.2 (-2 ^ 63) range .empty
  exact ⟨kept, again (by decide), range, same, error.trans (if_pos rfl)⟩

end ScriptDebugger
