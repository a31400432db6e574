import ScriptDebugger.Console.Command
import ScriptDebugger.Proofs.Script.NormalForms
import ScriptDebugger.Proofs.Session.Transparency

/-!
# Assignments agree

A variable is bound by a line of a script, by a call or by a command at the prompt.  Lines and commands are
trimmed and cut at different places, but a content is coerced to the same text whatever blanks stand
around it.
-/

namespace ScriptDebugger

open Text

/-! ## Blanks around a content -/

theorem trimChars_prepend
    {blanks : List Char} (characters : List Char) (blank : AllBlank blanks) :
    trimChars (blanks ++ characters) = trimChars characters := by
  rw [trimChars, trimStart, List.dropWhile_append_of_pos blank, trimChars, trimStart]

/-- Blanks before a text stay there when its references are replaced. -/
theorem substituteFrom_prepend
    {blanks : List Char} (bindings : Variables) (characters : List Char) (blank : AllBlank blanks) :
    substituteFrom bindings [] (blanks ++ characters) =
      blanks ++ substituteFrom bindings [] characters := by
  have dollar : '$' ∉ blanks := fun member => ne_of_isBlank (blank _ member) (by decide) rfl
  have plain : ¬ opener <:+: blanks := fun inside => dollar (inside.subset (by decide))
  obtain ⟨pieces, cuts⟩ := exists_cuts characters
  rw [substituteFrom_plain bindings [] plain (fun last => absurd (List.mem_of_getLast? last) dollar),
    cuts.substituteFrom_eq, cuts.substituteFrom_eq]
  simp

/-- What a replaced text is coerced to does not depend on the blanks at its ends. -/
theorem coerce_eq_of_trim
    {first second : String} {bindings : Variables}
    (same : trim (substitute first bindings) = trim (substitute second bindings)) :
    coerce first bindings = coerce second bindings := by
  have values (value : Int) : evaluate (substitute first bindings) bindings = .ok value ↔
      evaluate (substitute second bindings) bindings = .ok value := by
    rw [← evaluate_trim, same, evaluate_trim]
  simp only [coerce]
  cases outcome : evaluate (substitute first bindings) bindings with
  | ok value => rw [(values value).mp outcome]
  | error error =>
      cases other : evaluate (substitute second bindings) bindings with
      | ok value =>
          rw [(values value).mpr other] at outcome
          cases outcome
      | error => exact same

/-- Blanks around a content do not change what it is coerced to. -/
theorem coerce_around
    {before after : String} (content : String) (bindings : Variables)
    (blankBefore : AllBlank before.toList) (blankAfter : AllBlank after.toList) :
    coerce (before ++ content ++ after) bindings = coerce content bindings := by
  apply coerce_eq_of_trim
  simp only [trim, substitute, String.toList_append, String.toList_ofList, List.append_assoc]
  rw [substituteFrom_prepend bindings _ blankBefore, substituteFrom_append bindings [] _ blankAfter,
    trimChars_prepend _ blankBefore, trimChars_append _ blankAfter]

/-! ## Written assignments -/

/-- Blanks within a line. -/
structure Blanks where
  text : String
  blank : AllBlank text.toList
  single : IsLine text

/-- The blanks of a written assignment: before it, after the command word, around the equals sign and at the
end.  Only those after the command word have to be there. -/
structure Spacing where
  lead : Blanks
  space : Blanks
  gap : Blanks
  before : Blanks
  after : Blanks
  apart : space.text ≠ ""

namespace Spacing

/-- The line of a script that assigns a content to a name. -/
def line (spacing : Spacing) (name content : String) : String :=
  assignment (spacing.lead.text ++ name ++ spacing.gap.text)
    (spacing.before.text ++ content ++ spacing.after.text)

/-- The command that assigns a content to a name. -/
def command (spacing : Spacing) (name content : String) : String :=
  spacing.lead.text ++ "set" ++
    assignment (spacing.space.text ++ name ++ spacing.gap.text)
      (spacing.before.text ++ content ++ spacing.after.text)

end Spacing

/-- The interpreter with a variable bound to a coerced content. -/
def Interpreter.bound (interpreter : Interpreter) (name content : String) : Interpreter :=
  { interpreter with
    bindings := interpreter.bindings.insert name (coerce content interpreter.bindings) }

theorem Interpreter.setVariable_eq_bound
    (interpreter : Interpreter) {name : String} (content : String)
    (valid : isIdentifier name = true) :
    interpreter.setVariable name content = .ok (interpreter.bound name content) :=
  if_pos valid

theorem Interpreter.execute_line
    (interpreter : Interpreter) {name : String} (content : String)
    (valid : isIdentifier name = true) (spacing : Spacing) :
    interpreter.execute (spacing.line name content) = interpreter.bound name content := by
  rw [execute, Spacing.line,
    Statement.ofLine_assignment _ valid spacing.lead.blank spacing.gap.blank]
  simp only [coerce_trimEnd, coerce_around content _ spacing.before.blank spacing.after.blank]
  rfl

theorem Command.readAssignment_eq
    {name : String} {gap : List Char} (valid : isIdentifier name = true) (content : List Char)
    (blank : AllBlank gap) :
    Command.readAssignment (name.toList ++ gap ++ '=' :: content) =
      .ok (.setVariable name (String.ofList content)) := by
  have before : ∀ c ∈ name.toList ++ gap, (!(c == '=')) = true := not_equals_of_blanks valid blank
  have stops : ∀ c, ('=' :: content).head? = some c → (!(c == '=')) = false := by simp
  rw [Command.readAssignment, splitOnce, dropWhile_run before stops, takeWhile_run before stops]
  simp only [trimChars_name valid blank, String.ofList_toList]

/-- A command without the blanks at its ends is its word, the blanks after that and the assignment. -/
theorem Spacing.trimChars_command (spacing : Spacing) (name content : String) :
    trimChars (spacing.command name content).toList =
      "set".toList ++ (spacing.space.text.toList ++ (name.toList ++ spacing.gap.text.toList ++
        '=' :: trimEnd (spacing.before.text ++ content ++ spacing.after.text).toList)) := by
  have characters : (spacing.command name content).toList =
      spacing.lead.text.toList ++
        ("set".toList ++ (spacing.space.text.toList ++ name.toList ++ spacing.gap.text.toList) ++
          '=' :: (spacing.before.text ++ content ++ spacing.after.text).toList) := by
    simp [command, assignment]
  rw [characters, trimChars_assignment _ _ spacing.lead.blank (by decide +kernel)]
  simp only [List.append_assoc]

/-- A command with any blanks is read as an assignment of the name. -/
theorem Command.parse_command
    {name : String} (valid : isIdentifier name = true) (spacing : Spacing) (content : String) :
    ∃ given, Command.parse (spacing.command name content) = .ok (.setVariable name given) ∧
      ∀ bindings, coerce given bindings = coerce content bindings := by
  let once := String.ofList (trimEnd (spacing.before.text ++ content ++ spacing.after.text).toList)
  let argument := name.toList ++ spacing.gap.text.toList ++ '=' :: once.toList
  have trimmed : trimChars (spacing.command name content).toList =
      "set".toList ++ (spacing.space.text.toList ++ argument) := by
    have rest : once.toList =
        trimEnd (spacing.before.text ++ content ++ spacing.after.text).toList :=
      String.toList_ofList
    rw [spacing.trimChars_command, ← rest]
  have solid : ∀ c ∈ "set".toList, (!isBlank c) = true := by
    obtain ⟨_, _, _, _, continues⟩ :=
      isIdentifierChars_cons (show isIdentifierChars "set".toList = true by decide +kernel)
    intro c member
    rw [isBlank_of_continuesIdentifier (continues c member), Bool.not_false]
  have stops :
      ∀ c, (spacing.space.text.toList ++ argument).head? = some c → (!isBlank c) = false := by
    intro c first
    rw [List.head?_append_of_ne_nil _ (mt String.toList_eq_nil_iff.mp spacing.apart)] at first
    simp [spacing.space.blank c (List.mem_of_head? first)]
  refine ⟨String.ofList (trimEnd once.toList), ?_, ?_⟩
  · rw [Command.parse, trimmed, takeWhile_run solid stops, dropWhile_run solid stops,
      trimChars_assignment _ _ spacing.space.blank valid, String.ofList_toList]
    exact Command.readAssignment_eq valid _ spacing.gap.blank
  · intro bindings
    rw [coerce_trimEnd, coerce_trimEnd,
      coerce_around content bindings spacing.before.blank spacing.after.blank]

theorem Spacing.isLine_line
    (spacing : Spacing) {name content : String} (valid : isIdentifier name = true)
    (single : IsLine content) :
    IsLine (spacing.line name content) := by
  intro member
  simp only [line, assignment, String.toList_append, List.mem_append] at member
  rcases member with (((inLead | inName) | inGap) | inSign) | (inBefore | inContent) | inAfter
  · exact spacing.lead.single inLead
  · exact not_mem_identifier valid (by decide +kernel) inName
  · exact spacing.gap.single inGap
  · revert inSign
    decide
  · exact spacing.before.single inBefore
  · exact single inContent
  · exact spacing.after.single inAfter

/-! ## The three ways to assign -/

/-- A line of a script, a call and a command bind a name to the same coerced content, whatever blanks the
line and the command are written with, and a script that ends with the line has the binding. -/
theorem assignments_agree
    (name content : String) (valid : isIdentifier name = true) (single : IsLine content)
    (spacing : Spacing) :
    (∃ given, Command.parse (spacing.command name content) = .ok (.setVariable name given) ∧
      ∀ interpreter : Interpreter,
        interpreter.setVariable name given = .ok (interpreter.bound name content)) ∧
    (∀ interpreter : Interpreter,
      interpreter.setVariable name content = .ok (interpreter.bound name content) ∧
      interpreter.execute (spacing.line name content) = interpreter.bound name content) ∧
    ∀ earlier : List String, (∀ line ∈ earlier, IsLine line) →
      ∃ bindings output, undebugged earlier = .ok (bindings, output) ∧
        undebugged (earlier ++ [spacing.line name content]) =
          .ok (bindings.insert name (coerce content bindings), output) := by
  refine ⟨?_, ?_, ?_⟩
  · obtain ⟨given, parsed, same⟩ := Command.parse_command valid spacing content
    refine ⟨given, parsed, ?_⟩
    intro interpreter
    rw [interpreter.setVariable_eq_bound given valid, Interpreter.bound, same, Interpreter.bound]
  · intro interpreter
    exact ⟨interpreter.setVariable_eq_bound content valid,
      interpreter.execute_line content valid spacing⟩
  · intro earlier lines
    have extended : ∀ line ∈ earlier ++ [spacing.line name content], IsLine line := by
      intro line member
      rcases List.mem_append.mp member with before | last
      · exact lines line before
      · rw [List.mem_singleton.mp last]
        exact spacing.isLine_line valid single
    refine ⟨_, _, undebugged_eq lines, ?_⟩
    rw [undebugged_eq extended, ← computed_append earlier _ rfl]
    rw [Interpreter.executeAll_cons, Interpreter.execute_line _ content valid]
    rfl

/-- A line and a command with tabulators and wide blanks add one to a variable of an earlier line. -/
theorem assignments_agree_wide_blanks :
    isIdentifier "x" = true ∧ IsLine "n + 1" ∧
    (∃ given, Command.parse "\tset \u00a0x\u3000=  n + 1\r" = .ok (.setVariable "x" given) ∧
      ∀ interpreter : Interpreter,
        interpreter.setVariable "x" given = .ok (interpreter.bound "x" "n + 1")) ∧
    (∀ interpreter : Interpreter,
      interpreter.setVariable "x" "n + 1" = .ok (interpreter.bound "x" "n + 1") ∧
      interpreter.execute "\tx\u3000=  n + 1\r" = interpreter.bound "x" "n + 1") ∧
    ∃ bindings output, undebugged ["n=2"] = .ok (bindings, output) ∧
      undebugged ["n=2", "\tx\u3000=  n + 1\r"] =
        .ok (bindings.insert "x" (coerce "n + 1" bindings), output) := by
  have valid : isIdentifier "x" = true := by decide +kernel
  have single : IsLine "n + 1" := by decide
  have agree := assignments_agree "x" "n + 1" valid single
    { lead := ⟨"\t", by decide, by decide⟩
      space := ⟨" \u00a0", by decide, by decide⟩
      gap := ⟨"\u3000", by decide, by decide⟩
      before := ⟨"  ", by decide, by decide⟩
      after := ⟨"\r", by decide, by decide⟩
      apart := by decide }
  exact ⟨valid, single, agree.1, agree.2.1, agree.2.2 ["n=2"] (by decide)⟩

end ScriptDebugger
