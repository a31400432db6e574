import ScriptDebugger.Interpreter.State
import ScriptDebugger.Proofs.Text.Blanks
import ScriptDebugger.Proofs.Text.Lines

/-!
# Assignments

A line that writes a name, an equals sign and a content binds the name to the coerced content, whatever
blanks the content ends with: they are cut off the line, and they change neither what a text refers to
nor what its expression is.
-/

namespace ScriptDebugger

open Text

/-! ## References -/

theorem substituteFrom_blanks
    (bindings : Variables) (reversed : List Char) {blanks : List Char} (blank : AllBlank blanks) :
    substituteFrom bindings reversed blanks = reversed.reverse ++ blanks := by
  induction blanks generalizing reversed with
  | nil => simp [substituteFrom]
  | cons c rest inductionHypothesis =>
      have solid : c ≠ '$' := ne_of_isBlank (blank c List.mem_cons_self) (by decide)
      have later : AllBlank rest := fun other member => blank other (List.mem_cons_of_mem _ member)
      rw [substituteFrom, inductionHypothesis _ later]
      · simp
      · intro others same
        exact absurd same solid

theorem substituteFrom_unclosed
    (bindings : Variables) (reversed : List Char) {rest : List Char}
    (unclosed : rest.dropWhile (· != '}') = []) :
    substituteFrom bindings reversed ('$' :: '{' :: rest) =
      reversed.reverse ++ '$' :: '{' :: rest := by
  rw [substituteFrom]
  split
  case h_1 => exact List.reverseAux_eq
  case h_2 closed =>
    rw [unclosed] at closed
    cases closed

theorem substituteFrom_closed
    (bindings : Variables) (reversed : List Char) {rest after : List Char} {last : Char}
    (closed : rest.dropWhile (· != '}') = last :: after) :
    substituteFrom bindings reversed ('$' :: '{' :: rest) =
      substituteFrom bindings
        ((bindings.resolve (rest.takeWhile (· != '}'))).reverseAux reversed) after := by
  rw [substituteFrom]
  split
  case h_1 unclosed =>
    rw [closed] at unclosed
    cases unclosed
  case h_2 closedNow =>
    rw [closed] at closedNow
    rw [(List.cons.inj closedNow).2]

/-- Blanks at the end of a text stay there when its references are replaced. -/
theorem substituteFrom_append
    (bindings : Variables) (reversed characters : List Char) {blanks : List Char}
    (blank : AllBlank blanks) :
    substituteFrom bindings reversed (characters ++ blanks) =
      substituteFrom bindings reversed characters ++ blanks := by
  have inside : ∀ c ∈ blanks, (c != '}') = true := by
    intro c member
    simpa using ne_of_isBlank (blank c member) (by decide)
  fun_induction substituteFrom bindings reversed characters with
  | case1 reversed rest unclosed =>
      have stillUnclosed : (rest ++ blanks).dropWhile (· != '}') = [] := by
        rw [List.dropWhile_append, unclosed]
        exact List.dropWhile_eq_nil_iff.mpr inside
      rw [List.cons_append, List.cons_append, substituteFrom_unclosed bindings reversed stillUnclosed,
        List.reverseAux_eq]
      simp
  | case2 reversed rest last after closed inductionHypothesis =>
      have stillClosed : (rest ++ blanks).dropWhile (· != '}') = last :: (after ++ blanks) := by
        rw [List.dropWhile_append, closed]
        rfl
      have sameName : (rest ++ blanks).takeWhile (· != '}') =
          rest.takeWhile (· != '}') := by
        have total := congrArg List.length
          (List.takeWhile_append_dropWhile : rest.takeWhile (· != '}') ++ _ = rest)
        rw [closed, List.length_append, List.length_cons] at total
        rw [List.takeWhile_append, if_neg (by omega)]
      rw [List.cons_append, List.cons_append, substituteFrom_closed bindings reversed stillClosed,
        sameName, inductionHypothesis]
  | case3 reversed c rest other inductionHypothesis =>
      rw [List.cons_append, substituteFrom, inductionHypothesis]
      -- A dollar sign at the end would need a brace among the blanks to open a reference.
      intro others isDollar same
      cases rest with
      | nil =>
          have member : '{' ∈ blanks := by
            rw [List.nil_append] at same
            rw [same]
            exact List.mem_cons_self
          exact ne_of_isBlank (blank _ member) (by decide) rfl
      | cons next rest =>
          obtain ⟨rfl, _⟩ := List.cons.inj same
          exact other rest isDollar rfl
  | case4 reversed => rw [List.nil_append, substituteFrom_blanks bindings reversed blank]

/-! ## Expressions -/

theorem Token.read_append
    (offset : Nat) (first : Char) (rest : List Char) {blanks : List Char}
    (blank : AllBlank blanks) :
    Token.read offset first (rest ++ blanks) =
      (Token.read offset first rest).map fun reading =>
        { reading with rest := reading.rest ++ blanks } := by
  have noDigits : ∀ c ∈ blanks, c.isDigit = false :=
    fun c member => isDigit_of_isBlank (blank c member)
  have noLetters : ∀ c ∈ blanks, continuesIdentifier c = false :=
    fun c member => continuesIdentifier_of_isBlank (blank c member)
  unfold Token.read
  rw [takeWhile_append_others noDigits, dropWhile_append_others noDigits,
    takeWhile_append_others noLetters, dropWhile_append_others noLetters]
  split
  · rfl
  · split
    · cases Token.ofDigits (first :: rest.takeWhile Char.isDigit) <;> rfl
    · split <;> rfl

theorem scanFrom_blanks
    (offset : Nat) (found : Array Lexeme) {blanks : List Char} (blank : AllBlank blanks) :
    scanFrom offset found blanks = .ok found := by
  induction blanks generalizing offset with
  | nil => rw [scanFrom]
  | cons c rest inductionHypothesis =>
      have later : AllBlank rest := fun other member => blank other (List.mem_cons_of_mem _ member)
      rw [scanFrom, if_pos (blank c List.mem_cons_self), inductionHypothesis _ later]

theorem scanFrom_solid
    (offset : Nat) (found : Array Lexeme) {first : Char} (rest : List Char)
    (solid : ¬ isBlank first = true) :
    scanFrom offset found (first :: rest) =
      (Token.read offset first rest).bind fun reading =>
        scanFrom (offset + byteLength reading.characters)
          (found.push ⟨offset, reading.token⟩) reading.rest := by
  rw [scanFrom, if_neg solid]
  split
  case h_1 failure => rw [failure]; rfl
  case h_2 success => rw [success]; rfl

/-- Blanks at the end of a text write no token. -/
theorem scanFrom_append
    (offset : Nat) (found : Array Lexeme) (characters : List Char) {blanks : List Char}
    (blank : AllBlank blanks) :
    scanFrom offset found (characters ++ blanks) = scanFrom offset found characters := by
  fun_induction scanFrom offset found characters with
  | case1 offset found => exact scanFrom_blanks offset found blank
  | case2 offset found first rest isBlank inductionHypothesis =>
      rw [List.cons_append, scanFrom, if_pos isBlank, inductionHypothesis]
  | case3 offset found first rest solid error failure =>
      rw [List.cons_append, scanFrom_solid offset found _ solid, Token.read_append _ _ _ blank,
        failure]
      rfl
  | case4 offset found first rest solid reading success inductionHypothesis =>
      rw [List.cons_append, scanFrom_solid offset found _ solid, Token.read_append _ _ _ blank,
        success]
      exact inductionHypothesis

/-! ## Assigned contents -/

/-- Blanks at the end of a content do not change what it is coerced to. -/
theorem coerce_append
    (characters : List Char) {blanks : List Char} (bindings : Variables)
    (blank : AllBlank blanks) :
    coerce (String.ofList (characters ++ blanks)) bindings =
      coerce (String.ofList characters) bindings := by
  have replaced : substitute (String.ofList (characters ++ blanks)) bindings =
      String.ofList (substituteFrom bindings [] characters ++ blanks) := by
    rw [substitute, String.toList_ofList, substituteFrom_append bindings [] characters blank]
  have scanned : scan (String.ofList (substituteFrom bindings [] characters ++ blanks)) =
      scan (substitute (String.ofList characters) bindings) := by
    simp only [scan, substitute, String.toList_ofList, scanFrom_append _ _ _ blank]
  have evaluated :
      evaluate (String.ofList (substituteFrom bindings [] characters ++ blanks)) bindings =
        evaluate (substitute (String.ofList characters) bindings) bindings := by
    rw [evaluate, scanned, evaluate]
  have trimmed : trim (String.ofList (substituteFrom bindings [] characters ++ blanks)) =
      trim (substitute (String.ofList characters) bindings) := by
    simp only [trim, substitute, String.toList_ofList, trimChars_append _ blank]
  simp only [coerce, replaced, evaluated, trimmed]

theorem coerce_trimEnd (content : String) (bindings : Variables) :
    coerce (String.ofList (trimEnd content.toList)) bindings = coerce content bindings := by
  obtain ⟨blanks, blank, parts⟩ := exists_blanks content.toList
  have whole : content = String.ofList (trimEnd content.toList ++ blanks) := by
    rw [← parts, String.ofList_toList]
  rw [← coerce_append _ bindings blank, ← whole]

/-! ## Assignments as lines -/

/-- The line that assigns a content to a name. -/
def assignment (name content : String) : String :=
  name ++ "=" ++ content

theorem trimChars_assignment
    {lead name : List Char} (gap content : List Char) (blank : AllBlank lead)
    (valid : isIdentifierChars name = true) :
    trimChars (lead ++ (name ++ gap ++ '=' :: content)) = name ++ gap ++ '=' :: trimEnd content := by
  obtain ⟨first, rest, rfl, _, continues⟩ := isIdentifierChars_cons valid
  have solid := isBlank_of_continuesIdentifier (continues first List.mem_cons_self)
  have start : trimStart (lead ++ (first :: rest ++ gap ++ '=' :: content)) =
      first :: rest ++ gap ++ '=' :: content := by
    apply dropWhile_run blank
    rintro c next
    obtain rfl := Option.some.inj next
    exact solid
  rw [trimChars, start, trimEnd_append_cons _ _ (by decide)]

theorem not_equals_of_blanks
    {name gap : List Char} (valid : isIdentifierChars name = true) (blank : AllBlank gap) :
    ∀ c ∈ name ++ gap, (c != '=') = true := by
  intro c member
  rw [bne_iff_ne]
  rintro rfl
  rcases List.mem_append.mp member with inName | inGap
  · exact not_mem_identifier valid (by decide +kernel) inName
  · exact ne_of_isBlank (blank _ inGap) (by decide) rfl

theorem trimChars_name
    {name gap : List Char} (valid : isIdentifierChars name = true) (blank : AllBlank gap) :
    trimChars (name ++ gap) = name := by
  obtain ⟨_, _, _, _, continues⟩ := isIdentifierChars_cons valid
  rw [trimChars_append name blank]
  exact trimChars_of_solid fun c member => isBlank_of_continuesIdentifier (continues c member)

theorem Statement.ofTrimmed_assignment
    {name gap : List Char} (value : List Char) (valid : isIdentifierChars name = true)
    (blank : AllBlank gap) :
    Statement.ofTrimmed (name ++ gap ++ '=' :: value) =
      .assign (String.ofList name) (String.ofList value) := by
  obtain ⟨first, rest, shape, starts, _⟩ := isIdentifierChars_cons valid
  have before := not_equals_of_blanks valid blank
  have comment : first ≠ '#' := by
    rintro rfl
    revert starts
    decide +kernel
  have stops : ∀ c, ('=' :: value).head? = some c → (c != '=') = false := by simp
  unfold Statement.ofTrimmed
  split
  case h_1 none => simp at none
  case h_2 others same =>
    rw [shape, List.cons_append, List.cons_append] at same
    exact absurd (List.cons.inj same).1 comment
  case h_3 =>
    rw [dropWhile_run before stops, takeWhile_run before stops, trimChars_name valid blank]
    simp only [valid, if_true]

/-- An assignment to an identifier is read as one, without the blanks at its ends and around the name. -/
theorem Statement.ofLine_assignment
    {lead name gap : String} (content : String) (valid : isIdentifier name = true)
    (blankLead : AllBlank lead.toList) (blankGap : AllBlank gap.toList) :
    Statement.ofLine (assignment (lead ++ name ++ gap) content) =
      .assign name (String.ofList (trimEnd content.toList)) := by
  have characters : (assignment (lead ++ name ++ gap) content).toList =
      lead.toList ++ (name.toList ++ gap.toList ++ '=' :: content.toList) := by
    simp [assignment]
  rw [Statement.ofLine, characters, trimChars_assignment _ _ blankLead valid,
    Statement.ofTrimmed_assignment _ valid blankGap, String.ofList_toList]

/-- A line that assigns does what a change of the variable from outside does. -/
theorem Interpreter.setVariable_eq_execute
    (interpreter : Interpreter) {name : String} (content : String)
    (valid : isIdentifier name = true) :
    interpreter.setVariable name content = .ok (interpreter.execute (assignment name content)) := by
  have assigns : Statement.ofLine (assignment ("" ++ name ++ "") content) = _ :=
    Statement.ofLine_assignment content valid (by decide) (by decide)
  rw [String.empty_append, String.append_empty] at assigns
  rw [setVariable, if_pos valid, execute, assigns]
  simp only [coerce_trimEnd]

theorem isLine_assignment
    {name content : String} (valid : isIdentifier name = true) (single : IsLine content) :
    IsLine (assignment name content) := by
  intro member
  simp only [assignment, String.toList_append, List.mem_append] at member
  rcases member with (inName | inSign) | inContent
  · exact not_mem_identifier valid (by decide +kernel) inName
  · revert inSign
    decide
  · exact single inContent

end ScriptDebugger
