import ScriptDebugger.Proofs.Script.NormalForms

/-!
# References and names agree

A variable that holds an integer is used in an expression by its name or by a reference to it.  A reference
puts in the decimal text of the integer, which is a number or a minus sign and a number.  An expression
in which this stands in place of the name has the same value, because a signed number can stand wherever
an operand can.
-/

namespace ScriptDebugger

open Text

/-! ## Words at a border -/

theorem continuesIdentifier_of_isDigit {c : Char} (digit : c.isDigit = true) :
    continuesIdentifier c = true := by
  have bounds : 48 ≤ c.toNat ∧ c.toNat ≤ 57 := by
    simpa [Char.isDigit, UInt32.le_iff_toNat_le] using digit
  have numeric : isNumeric c = true := by
    rw [isNumeric, numericRanges, Ranges.covers, if_neg (by omega), if_pos (by omega)]
  simp [continuesIdentifier, isAlphanumeric, numeric]

theorem Token.continuesIdentifier_of_continues
    {token : Token} {c : Char} (continues : token.continues c = true) :
    continuesIdentifier c = true := by
  cases token with
  | number => exact continuesIdentifier_of_isDigit continues
  | identifier => exact continues
  | operator | opening | closing => cases continues

/-- A word is a single character that nothing continues, or all its characters can stand in an
identifier. -/
theorem Token.SpelledBy.kind
    {token : Token} {characters : List Char} (spelled : token.SpelledBy characters) :
    (∃ c, characters = [c] ∧ ∀ next, token.continues next = false) ∨
      ∀ c ∈ characters, continuesIdentifier c = true := by
  cases token with
  | number =>
      right
      intro c member
      exact continuesIdentifier_of_isDigit ((spelledBy_number.mp spelled).2.1 c member)
  | identifier =>
      right
      obtain ⟨rfl, valid⟩ := spelled
      obtain ⟨_, _, _, _, continues⟩ := isIdentifierChars_cons valid
      exact continues
  | operator sign =>
      left
      obtain rfl := spelled
      exact ⟨sign.character, String.toList_singleton _, fun _ => rfl⟩
  | opening =>
      left
      obtain rfl := spelled
      exact ⟨'(', rfl, fun _ => rfl⟩
  | closing =>
      left
      obtain rfl := spelled
      exact ⟨')', rfl, fun _ => rfl⟩

/-- Whether no identifier or number goes across the border between two texts. -/
def Apart (first second : List Char) : Prop :=
  ∀ c d, first.getLast? = some c → second.head? = some d →
    continuesIdentifier c = false ∨ continuesIdentifier d = false

section Apart

variable {first second : List Char}

theorem apart_of_left (stops : ∀ c, first.getLast? = some c → continuesIdentifier c = false) :
    Apart first second :=
  fun c _ last _ => Or.inl (stops c last)

theorem apart_of_right (stops : ∀ c, second.head? = some c → continuesIdentifier c = false) :
    Apart first second :=
  fun _ d _ next => Or.inr (stops d next)

theorem Apart.of_append (before : List Char) (apart : Apart (before ++ first) second) :
    Apart first second := by
  intro c d last next
  apply apart c d _ next
  rw [List.getLast?_append, last]
  rfl

theorem Apart.stops
    {d : Char} (apart : Apart first second) (nonempty : first ≠ [])
    (all : ∀ c ∈ first, continuesIdentifier c = true) (next : second.head? = some d) :
    continuesIdentifier d = false := by
  have last := List.getLast?_eq_some_getLast nonempty
  rcases apart _ d last next with other | other
  · rw [all _ (List.getLast_mem nonempty)] at other
    cases other
  · exact other

/-- A word ends where its text is apart from what follows. -/
theorem Apart.endsBefore
    {token : Token} (apart : Apart first second) (spelled : token.SpelledBy first) :
    token.EndsBefore second := by
  intro d next
  rcases spelled.kind with ⟨_, _, ends⟩ | all
  · exact ends d
  · obtain ⟨c, others, shape, _⟩ := spelled.cons
    have stops := apart.stops (by simp [shape]) all next
    by_contra continues
    rw [Token.continuesIdentifier_of_continues (Bool.eq_true_of_not_eq_false continues)] at stops
    cases stops

/-- No word goes across the border. -/
theorem Apart.not_spelledBy
    {token : Token} {after : List Char} (apart : Apart first (second ++ after)) (left : first ≠ [])
    (right : second ≠ []) :
    ¬ token.SpelledBy (first ++ second) := by
  intro spelled
  obtain ⟨d, others, rfl⟩ := List.exists_cons_of_ne_nil right
  rcases spelled.kind with ⟨c, single, _⟩ | all
  · have length := congrArg List.length single
    have positive := List.length_pos_iff.mpr left
    simp only [List.length_append, List.length_cons, List.length_nil] at length
    omega
  · have stops := apart.stops left (fun c member => all c (List.mem_append_left _ member)) rfl
    rw [all d (by simp)] at stops
    cases stops

end Apart

/-! ## Scanning parts of a text -/

section Parts

variable {rest first second : List Char} {offset : Nat} {words later : List Word}

/-- The words of a text do not depend on what follows apart from it. -/
theorem Scans.before
    {other : List Char} (scans : Scans rest offset first words) (apart : Apart first other) :
    Scans other offset first words := by
  induction scans with
  | done offset => exact .done offset
  | @blank offset c first words blank _ inductionHypothesis =>
      exact .blank blank (inductionHypothesis (apart.of_append [c]))
  | @word first words word spelled ends _ inductionHypothesis =>
      apply Scans.word word spelled
      · cases first with
        | nil =>
            rw [List.append_nil] at apart
            exact apart.endsBefore spelled
        | cons c first => exact fun d next => ends d next
      · exact inductionHypothesis (apart.of_append _)

theorem Scans.append
    {other : List Char} (front : Scans other offset first words) (apart : Apart first (second ++ rest))
    (back : Scans rest (offset + byteLength first) second later) :
    Scans rest offset (first ++ second) (words ++ later) := by
  have standing := front.before apart
  clear front apart
  induction standing with
  | done offset => simpa using back
  | @blank offset c first words blank _ inductionHypothesis =>
      rw [byteLength_cons, ← Nat.add_assoc] at back
      exact .blank blank (inductionHypothesis back)
  | @word first words word spelled ends _ inductionHypothesis =>
      rw [byteLength_append, ← Nat.add_assoc] at back
      rw [List.append_assoc, List.cons_append]
      apply Scans.word word spelled
      · rwa [List.append_assoc]
      · exact inductionHypothesis back

/-- A text is scanned part by part. -/
theorem Scans.split
    (scans : Scans rest offset (first ++ second) words) (apart : Apart first second) :
    ∃ front back, words = front ++ back ∧ Scans (second ++ rest) offset first front ∧
      Scans rest (offset + byteLength first) second back := by
  generalize whole : first ++ second = text at scans
  induction scans generalizing first with
  | done offset =>
      obtain ⟨rfl, rfl⟩ := List.append_eq_nil_iff.mp whole
      exact ⟨[], [], rfl, .done offset, .done _⟩
  | @blank offset c text words blank scans inductionHypothesis =>
      cases first with
      | nil =>
          rw [List.nil_append] at whole
          exact ⟨[], words, rfl, .done offset, whole ▸ .blank blank scans⟩
      | cons d first =>
          obtain ⟨rfl, same⟩ := List.cons.inj whole
          obtain ⟨front, back, rfl, frontScans, backScans⟩ :=
            inductionHypothesis (apart.of_append [d]) same
          refine ⟨front, back, rfl, .blank blank frontScans, ?_⟩
          rwa [byteLength_cons, ← Nat.add_assoc]
  | @word text words word spelled ends scans inductionHypothesis =>
      rcases List.append_eq_append_iff.mp whole with ⟨more, shape, rfl⟩ | ⟨more, rfl, rfl⟩
      · by_cases none : first = []
        · rw [none, List.nil_append] at shape
          refine ⟨[], word :: words, rfl, none ▸ .done _, ?_⟩
          rw [none, ← shape]
          exact .word word spelled ends scans
        by_cases last : more = []
        · rw [last, List.append_nil] at shape
          rw [last, List.nil_append, ← shape]
          refine ⟨[word], words, rfl, ?_, scans⟩
          have single : Scans (text ++ rest) word.offset (word.text.toList ++ []) [word] :=
            .word word spelled ends (.done _)
          rwa [List.append_nil] at single
        exact absurd (shape ▸ spelled) (apart.not_spelledBy none last)
      · obtain ⟨front, back, rfl, frontScans, backScans⟩ := inductionHypothesis (apart.of_append _) rfl
        refine ⟨word :: front, back, rfl, .word word spelled ?_ frontScans, ?_⟩
        · rwa [← List.append_assoc]
        · rwa [byteLength_append, ← Nat.add_assoc]

theorem Scans.tokens_eq
    {others : List Word} (scans : Scans [] offset first words) (also : Scans [] offset first others) :
    words.map Word.token = others.map Word.token := by
  have same := (scans.scanFrom_eq #[]).symm.trans (also.scanFrom_eq #[])
  rw [scanFrom, scanFrom] at same
  have lexemes : words.map Word.lexeme = others.map Word.lexeme := by simpa using same
  simpa [Function.comp_def, Word.lexeme] using congrArg (List.map Lexeme.token) lexemes

/-- A part of a text between two borders is exchanged for another text, and its tokens for those of this
text. -/
theorem Scans.exchange
    {before part other after : List Char} {partWords otherWords : List Word} {place : Nat}
    (scans : Scans [] offset (before ++ (part ++ after)) words)
    (partScans : Scans [] place part partWords) (otherScans : Scans [] place other otherWords)
    (left : ∀ c, before.getLast? = some c → continuesIdentifier c = false)
    (right : ∀ c, after.head? = some c → continuesIdentifier c = false) :
    ∃ front back exchanged,
      words.map Word.token = front ++ (partWords.map Word.token ++ back) ∧
        Scans [] offset (before ++ (other ++ after)) exchanged ∧
        exchanged.map Word.token = front ++ (otherWords.map Word.token ++ back) := by
  obtain ⟨front, back, rfl, frontScans, backScans⟩ := scans.split (apart_of_left left)
  obtain ⟨middle, last, rfl, middleScans, lastScans⟩ := backScans.split (apart_of_right right)
  obtain ⟨movedMiddle, middleScans, sameMiddle⟩ := middleScans.alone.moved place
  obtain ⟨movedOther, otherScans, sameOther⟩ := otherScans.moved (offset + byteLength before)
  obtain ⟨movedLast, lastScans, sameLast⟩ :=
    lastScans.moved (offset + byteLength before + byteLength other)
  have tail := otherScans.append (apart_of_right (by simpa using right)) lastScans
  have whole := frontScans.append (apart_of_left left) tail
  refine ⟨front.map Word.token, last.map Word.token, _, ?_, whole, ?_⟩
  · rw [List.map_append, List.map_append, ← sameMiddle, middleScans.tokens_eq partScans]
  · rw [List.map_append, List.map_append, sameOther, sameLast]

end Parts

/-! ## Exchanging an operand -/

/-- `Exchanged token others before after` means that `after` results from `before` by putting the other
tokens in place of some occurrences of the token. -/
inductive Exchanged (token : Token) (others : List Token) : List Token → List Token → Prop
  | nil : Exchanged token others [] []
  | keep {before after : List Token} (kept : Token) :
      Exchanged token others before after →
      Exchanged token others (kept :: before) (kept :: after)
  | put {before after : List Token} :
      Exchanged token others before after →
      Exchanged token others (token :: before) (others ++ after)

namespace Exchanged

variable {token kept : Token} {others before after first second : List Token}

theorem refl (tokens : List Token) : Exchanged token others tokens tokens := by
  induction tokens with
  | nil => exact .nil
  | cons kept tokens inductionHypothesis => exact .keep kept inductionHypothesis

theorem prepend (front : List Token) (exchanged : Exchanged token others before after) :
    Exchanged token others (front ++ before) (front ++ after) := by
  induction front with
  | nil => exact exchanged
  | cons kept front inductionHypothesis => exact .keep kept inductionHypothesis

theorem split (exchanged : Exchanged token others (first ++ second) after) :
    ∃ left right, after = left ++ right ∧ Exchanged token others first left ∧
      Exchanged token others second right := by
  induction first generalizing after with
  | nil => exact ⟨[], after, rfl, .nil, exchanged⟩
  | cons head first inductionHypothesis =>
      cases exchanged with
      | keep _ exchanged =>
          obtain ⟨left, right, rfl, front, back⟩ := inductionHypothesis exchanged
          exact ⟨head :: left, right, rfl, .keep head front, back⟩
      | put exchanged =>
          obtain ⟨left, right, rfl, front, back⟩ := inductionHypothesis exchanged
          exact ⟨others ++ left, right, (List.append_assoc _ _ _).symm, .put front, back⟩

theorem of_kept
    (exchanged : Exchanged token others (kept :: before) after) (different : kept ≠ token) :
    ∃ later, after = kept :: later ∧ Exchanged token others before later := by
  cases exchanged with
  | keep _ exchanged => exact ⟨_, rfl, exchanged⟩
  | put => exact absurd rfl different

theorem eq_nil (exchanged : Exchanged token others [] after) : after = [] := by
  cases exchanged
  rfl

end Exchanged

/-- What derives after an operand was exchanged for a unary. -/
def Category.signed : Category → Category
  | .primary => .unary
  | category => category

/-- An operand can be exchanged for a unary of the same value, wherever it stands in an expression. -/
theorem Derives.exchanged
    {bindings : Variables} {name : String} {others : List Token} {operand : Expression}
    (derives : ∀ limit, Derives limit .unary others operand)
    (same : operand.value bindings = bindings.integer name)
    {limit : Nat} {category : Category} {tokens after : List Token} {tree : Expression}
    (derivation : Derives limit category tokens tree)
    (exchanged : Exchanged (.identifier name) others tokens after) :
    ∃ other, Derives limit category.signed after other ∧
      other.value bindings = tree.value bindings := by
  induction derivation generalizing after with
  | number limit value =>
      obtain ⟨later, rfl, rest⟩ := exchanged.of_kept (by simp)
      obtain rfl := rest.eq_nil
      exact ⟨_, (Derives.number limit value).primary, rfl⟩
  | identifier limit other =>
      cases exchanged with
      | keep _ rest =>
          obtain rfl := rest.eq_nil
          exact ⟨_, (Derives.identifier limit other).primary, rfl⟩
      | put rest =>
          obtain rfl := rest.eq_nil
          rw [List.append_nil]
          exact ⟨operand, derives limit, same⟩
  | group _ inductionHypothesis =>
      obtain ⟨later, rfl, rest⟩ := exchanged.of_kept (by simp)
      obtain ⟨inside, last, rfl, insideExchanged, lastExchanged⟩ := rest.split
      obtain ⟨none, rfl, nothing⟩ := lastExchanged.of_kept (by simp)
      obtain rfl := nothing.eq_nil
      obtain ⟨other, derivation, value⟩ := inductionHypothesis insideExchanged
      exact ⟨other, derivation.group.primary, value⟩
  | primary _ inductionHypothesis => exact inductionHypothesis exchanged
  | negation _ inductionHypothesis =>
      obtain ⟨later, rfl, rest⟩ := exchanged.of_kept (by simp)
      obtain ⟨other, derivation, value⟩ := inductionHypothesis rest
      refine ⟨.negation other, derivation.negation, ?_⟩
      rw [Expression.value, Expression.value, value]
  | unary _ inductionHypothesis =>
      obtain ⟨other, derivation, value⟩ := inductionHypothesis exchanged
      exact ⟨other, derivation.unary, value⟩
  | product _ multiplicative _ leftHypothesis rightHypothesis =>
      obtain ⟨front, back, rfl, frontExchanged, backExchanged⟩ := exchanged.split
      obtain ⟨later, rfl, rest⟩ := backExchanged.of_kept (by simp)
      obtain ⟨left, leftDerivation, leftValue⟩ := leftHypothesis frontExchanged
      obtain ⟨right, rightDerivation, rightValue⟩ := rightHypothesis rest
      refine ⟨_, leftDerivation.product multiplicative rightDerivation, ?_⟩
      rw [Expression.value, Expression.value, leftValue, rightValue]
  | term _ inductionHypothesis =>
      obtain ⟨other, derivation, value⟩ := inductionHypothesis exchanged
      exact ⟨other, derivation.term, value⟩
  | sum _ additive _ leftHypothesis rightHypothesis =>
      obtain ⟨front, back, rfl, frontExchanged, backExchanged⟩ := exchanged.split
      obtain ⟨later, rfl, rest⟩ := backExchanged.of_kept (by simp)
      obtain ⟨left, leftDerivation, leftValue⟩ := leftHypothesis frontExchanged
      obtain ⟨right, rightDerivation, rightValue⟩ := rightHypothesis rest
      refine ⟨_, leftDerivation.sum additive rightDerivation, ?_⟩
      rw [Expression.value, Expression.value, leftValue, rightValue]

/-! ## Names and references -/

section Variable

variable {bindings : Variables} {name : String} (valid : isIdentifier name = true)

include valid

/-- A name in an expression can be exchanged for the decimal text of the integer that it holds. -/
theorem evaluate_exchanged
    {before after : List Char} {value result : Int} (bound : bindings.get? name = some (decimal value))
    (range : InRange value) (greater : value ≠ -2 ^ 63)
    (left : ∀ c, before.getLast? = some c → continuesIdentifier c = false)
    (right : ∀ c, after.head? = some c → continuesIdentifier c = false)
    (success : evaluate (String.ofList (before ++ (name.toList ++ after))) bindings = .ok result) :
    evaluate (String.ofList (before ++ ((decimal value).toList ++ after))) bindings = .ok result := by
  obtain ⟨tree, parses, computed⟩ := evaluate_eq_ok.mp success
  obtain ⟨words, scans, derivation⟩ := parses_iff.mp parses
  obtain ⟨literal, operand, literalScans, derives, held⟩ := exists_signed range greater
  have nameScans := scans_token (show Token.Writable (.identifier name) from valid) 0
  rw [String.toList_ofList] at scans
  obtain ⟨front, back, exchanged, tokens, scans, tokensThen⟩ :=
    scans.exchange nameScans literalScans left right
  rw [tokens] at derivation
  have integer : bindings.integer name = .ok value := by
    rw [Variables.integer, bound]
    simp only [readInteger_decimal range]
  obtain ⟨other, derivation, same⟩ := derivation.exchanged derives ((held bindings).trans integer.symm)
    (Exchanged.prepend front (.put (.refl back)))
  rw [← tokensThen] at derivation
  refine evaluate_eq_ok.mpr ⟨other, parses_iff.mpr ⟨exchanged, ?_, derivation⟩, same.trans computed⟩
  rwa [String.toList_ofList]

theorem substitute_name
    {before after : String} (none : ¬ opener <:+: before.toList)
    (noneAfter : ¬ opener <:+: after.toList) :
    substitute (before ++ name ++ after) bindings =
      String.ofList (before.toList ++ (name.toList ++ after.toList)) := by
  have dollar : '$' ∉ name.toList := not_mem_identifier valid (by decide +kernel)
  have brace : '{' ∉ name.toList := not_mem_identifier valid (by decide +kernel)
  obtain ⟨first, others, shape, _⟩ := isIdentifierChars_cons valid
  have start : (name.toList ++ after.toList).head? ≠ some '{' := by
    intro next
    rw [shape] at next brace
    exact brace (Option.some.inj next ▸ List.mem_cons_self)
  rw [substitute, String.toList_append, String.toList_append, List.append_assoc,
    substituteFrom_plain bindings [] none (fun _ => start),
    substituteFrom_plain bindings _ (fun inside => dollar (inside.subset (by decide)))
      (fun last => absurd (List.mem_of_getLast? last) dollar),
    substituteFrom_of_not_opener noneAfter]
  simp

theorem substitute_reference
    {before after text : String} (bound : bindings.get? name = some text)
    (none : ¬ opener <:+: before.toList) (noneAfter : ¬ opener <:+: after.toList) :
    substitute (before ++ String.ofList ('$' :: '{' :: name.toList ++ ['}']) ++ after) bindings =
      String.ofList (before.toList ++ (text.toList ++ after.toList)) := by
  have brace : '}' ∉ name.toList := not_mem_identifier valid (by decide +kernel)
  have shape : (before ++ String.ofList ('$' :: '{' :: name.toList ++ ['}']) ++ after).toList =
      before.toList ++ (opener ++ name.toList ++ ['}'] ++ after.toList) := by
    simp [opener]
  have filled : (Piece.reference name.toList).filled bindings = text.toList := by
    rw [Piece.filled, String.ofList_toList, bound]
  rw [substitute, shape, substituteFrom_reference bindings [] _ none brace, filled,
    substituteFrom_of_not_opener noneAfter]
  simp

end Variable

/-- A variable that holds the decimal text of an integer other than the least one can be used by its name
or by a reference.  If an expression that uses the name, apart from other names and numbers, has a value, it
has the same value with the reference in place of the name. -/
theorem references_agree_with_names
    (interpreter : Interpreter) (name : String) (value : Int) (valid : isIdentifier name = true)
    (bound : interpreter.bindings.get? name = some (decimal value))
    (lower : -2 ^ 63 < value) (upper : value < 2 ^ 63) (before after : String)
    (noneBefore : ¬ opener <:+: before.toList) (noneAfter : ¬ opener <:+: after.toList)
    (left : ∀ c, before.toList.getLast? = some c → (isAlphanumeric c || c == '_') = false)
    (right : ∀ c, after.toList.head? = some c → (isAlphanumeric c || c == '_') = false)
    (result : String) (success : interpreter.evaluate (before ++ name ++ after) = .ok result) :
    interpreter.evaluate (before ++ String.ofList ('$' :: '{' :: name.toList ++ ['}']) ++ after) =
      .ok result := by
  rw [Interpreter.evaluate, substitute_name valid noneBefore noneAfter] at success
  rw [Interpreter.evaluate, substitute_reference valid bound noneBefore noneAfter]
  split at success
  case h_2 => cases success
  case h_1 integer computed =>
    have range : InRange value := ⟨Int.le_of_lt lower, upper⟩
    rw [evaluate_exchanged valid bound range (Int.ne_of_gt lower) left right computed]
    exact success

/-- A negative factor after a minus sign is another minus sign and a number. -/
theorem references_agree_with_names_negative :
    ∃ interpreter : Interpreter,
      interpreter.bindings.get? "x" = some (decimal (-3)) ∧
        interpreter.evaluate ("8-" ++ "x" ++ "*2") = .ok "14" ∧
        interpreter.evaluate ("8-" ++ String.ofList ['$', '{', 'x', '}'] ++ "*2") = .ok "14" := by
  let interpreter : Interpreter := { script := [], bindings := .ofList [("x", "-3")] }
  have bound : interpreter.bindings.get? "x" = some (decimal (-3)) := by decide +kernel
  have parses : Parses "8-x*2" maxDepth
      (.binary .subtract (.number 8) (.binary .multiply (.identifier "x") (.number 2))) := by
    refine ⟨[⟨0, .number 8⟩, ⟨1, .operator .subtract⟩, ⟨2, .identifier "x"⟩,
      ⟨3, .operator .multiply⟩, ⟨4, .number 2⟩], by with_unfolding_all rfl, ?_⟩
    exact Derives.sum (Derives.number maxDepth 8).primary.unary.term rfl
      (Derives.product (Derives.identifier maxDepth "x").primary.unary rfl
        (Derives.number maxDepth 2).primary)
  have computed : interpreter.evaluate ("8-" ++ "x" ++ "*2") = .ok "14" := by
    have text : "8-" ++ "x" ++ "*2" = "8-x*2" := by decide
    have evaluated : evaluate "8-x*2" interpreter.bindings = .ok 14 :=
      evaluate_eq_ok.mpr ⟨_, parses, rfl⟩
    rw [text, Interpreter.evaluate, substitute_of_not_opener (by decide), evaluated]
    rfl
  refine ⟨interpreter, bound, computed, ?_⟩
  apply references_agree_with_names interpreter "x" (-3) (by decide +kernel) bound (by norm_num)
    (by norm_num) "8-" "*2" (by decide) (by decide) _ _ "14" computed
  · intro c last
    obtain rfl : '-' = c := Option.some.inj last
    decide +kernel
  · intro c next
    obtain rfl : '*' = c := Option.some.inj next
    decide +kernel

end ScriptDebugger
