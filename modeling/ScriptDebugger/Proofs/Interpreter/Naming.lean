import Mathlib.Logic.Relation
import ScriptDebugger.Debugging.Rehearsal
import ScriptDebugger.Debugging.Target
import ScriptDebugger.Proofs.Script.Operands

/-!
# Variables can be named

What binds a variable checks its name, and the names that it accepts are the ones that are scanned as a
single identifier.  So a variable that is there can be evaluated by its name, whatever was done with
the script: the only error is that its text is no integer.
-/

namespace ScriptDebugger

open Text

/-! ## Names as expressions -/

theorem isIdentifier_iff_scan (text : String) :
    isIdentifier text = true ↔ scan text = .ok [⟨0, .identifier text⟩] := by
  constructor
  · intro valid
    have scans := scans_token (show Token.Writable (.identifier text) from valid) 0
    exact scan_eq_ok.mpr ⟨_, scans, rfl⟩
  · intro scanned
    obtain ⟨words, scans, same⟩ := scan_eq_ok.mp scanned
    obtain ⟨word, rest, rfl, lexeme, _⟩ := List.map_eq_cons_iff.mp same
    obtain ⟨_, _, _, _, spelled, _⟩ := scans.stands List.mem_cons_self
    have token : word.token = .identifier text := congrArg Lexeme.token lexeme
    rw [token] at spelled
    exact spelled.2

theorem evaluate_name {name : String} (valid : isIdentifier name = true) (bindings : Variables) :
    evaluate name bindings = bindings.integer name := by
  have parses : Parses name maxDepth (.identifier name) :=
    ⟨_, (isIdentifier_iff_scan name).mp valid, (Derives.identifier maxDepth name).primary.unary.term⟩
  exact (parses.evaluate_meets bindings).eq (Nat.lt_irrefl maxDepth)

theorem isIdentifier_of_assign
    {line name value : String} (assigns : Statement.ofLine line = .assign name value) :
    isIdentifier name = true := by
  unfold Statement.ofLine Statement.ofTrimmed at assigns
  split at assigns
  · cases assigns
  · cases assigns
  · split at assigns
    · cases assigns
    · dsimp only at assigns
      split at assigns
      case isTrue valid =>
        obtain ⟨rfl, _⟩ := Statement.assign.inj assigns
        rwa [isIdentifier, String.toList_ofList]
      case isFalse => cases assigns

theorem trimmed_coerce (content : String) (bindings : Variables) :
    Trimmed (coerce content bindings).toList := by
  rcases coerce_cases content bindings with ⟨integer, _, same⟩ | ⟨trimmed, _⟩
  · rw [same]
    exact trimmed_of_solid (isBlank_of_mem_decimal integer)
  · exact trimmed

namespace Interpreter

/-! ## What can happen to a script -/

/-- `Step interpreter changed` means that one thing happens to the script, at whatever time: something is
asked of it from outside, in vain or not, or its run is started, stops, goes on, executes a line or ends. -/
inductive Step (interpreter : Interpreter) : Interpreter → Prop
  | resume : Step interpreter interpreter.resume
  | terminate : Step interpreter (interpreter.attempt interpreter.terminate).1
  | setVariable (name content : String) :
      Step interpreter (interpreter.attempt (interpreter.setVariable name content)).1
  | attach (attached : Bool) : Step interpreter { interpreter with attached := attached }
  | start : Step interpreter (interpreter.attempt interpreter.start).1
  | suspend (line : Option Nat) : Step interpreter (interpreter.suspendedAt line)
  | goOn : Step interpreter { interpreter with status := .running, resumeRequested := false }
  | execute {line : String} :
      line ∈ interpreter.script →
      Step interpreter (interpreter.execute line)
  | finish : Step interpreter { interpreter with status := .terminated, attached := false }

/-- `Reaches interpreter changed` means that things happen to the script one after the other. -/
def Reaches : Interpreter → Interpreter → Prop :=
  Relation.ReflTransGen Step

/-- `Assigns interpreter changed` means that the variables are as before or one of them is bound to a
coerced content. -/
inductive Assigns (interpreter changed : Interpreter) : Prop
  | same : changed.bindings = interpreter.bindings → Assigns interpreter changed
  | bound (name content : String) :
      isIdentifier name = true →
      changed.bindings = interpreter.bindings.insert name (coerce content interpreter.bindings) →
      Assigns interpreter changed

section Steps

variable {interpreter changed : Interpreter}

theorem Step.effect (step : Step interpreter changed) :
    changed.script = interpreter.script ∧ Assigns interpreter changed := by
  cases step with
  | attach | suspend | goOn | finish => exact ⟨rfl, .same rfl⟩
  | resume =>
      unfold Interpreter.resume
      split <;> exact ⟨rfl, .same rfl⟩
  | terminate =>
      unfold Interpreter.terminate
      split <;> exact ⟨rfl, .same rfl⟩
  | start =>
      unfold Interpreter.start
      split <;> exact ⟨rfl, .same rfl⟩
  | setVariable name content =>
      unfold Interpreter.setVariable
      split
      case isTrue valid => exact ⟨rfl, .bound name content valid rfl⟩
      case isFalse => exact ⟨rfl, .same rfl⟩
  | execute =>
      unfold Interpreter.execute
      split
      case h_1 => exact ⟨rfl, .same rfl⟩
      case h_2 name value assigns =>
        exact ⟨rfl, .bound name value (isIdentifier_of_assign assigns) rfl⟩
      case h_3 => exact ⟨rfl, .same rfl⟩

theorem Reaches.next
    {later : Interpreter} (reaches : Reaches interpreter changed) (step : Step changed later) :
    Reaches interpreter later :=
  reaches.tail step

theorem Reaches.script (reaches : Reaches interpreter changed) :
    changed.script = interpreter.script := by
  induction reaches with
  | refl => rfl
  | tail _ step inductionHypothesis => exact step.effect.1.trans inductionHypothesis

/-- Whether every variable has an identifier as its name and a text without blanks at its ends. -/
def WellNamed (interpreter : Interpreter) : Prop :=
  ∀ name value, interpreter.bindings.get? name = some value →
    isIdentifier name = true ∧ Trimmed value.toList

theorem WellNamed.step (named : interpreter.WellNamed) (step : Step interpreter changed) :
    changed.WellNamed := by
  intro name value found
  cases step.effect.2 with
  | same unchanged =>
      rw [unchanged] at found
      exact named name value found
  | bound assigned content valid bindings =>
      rw [bindings, Variables.get?_insert] at found
      split at found
      case isTrue here =>
        rw [here, ← Option.some.inj found]
        exact ⟨valid, trimmed_coerce _ _⟩
      case isFalse => exact named name value found

theorem Reaches.wellNamed
    (reaches : Reaches interpreter changed) (named : interpreter.WellNamed) : changed.WellNamed := by
  induction reaches with
  | refl => exact named
  | tail _ step inductionHypothesis => exact inductionHypothesis.step step

end Steps

/-! ## Runs -/

/-- Whether all that an observer does to a script can happen to it. -/
structure Acts {σ : Type} (observer : Observer σ) : Prop where
  loaded : ∀ interpreter state, Reaches interpreter (observer.loaded interpreter state).1
  stopsAt : ∀ line interpreter state,
    Reaches interpreter (observer.stopsAt line interpreter state).2.1
  suspended : ∀ line interpreter state,
    Reaches interpreter (observer.suspended line interpreter state).1
  resumed : ∀ interpreter state, Reaches interpreter (observer.resumed interpreter state).1
  terminated : ∀ interpreter state, Reaches interpreter (observer.terminated interpreter state).1

section Runs

variable {σ : Type} {observer : Observer σ} (acts : Acts observer)

include acts

theorem Acts.leaveSuspension (interpreter : Interpreter) (state : σ) :
    Reaches interpreter (interpreter.leaveSuspension observer state).1 := by
  have running : Reaches interpreter
      { interpreter with status := .running, resumeRequested := false } :=
    .single .goOn
  unfold Interpreter.leaveSuspension
  dsimp only
  split
  · exact running.trans (acts.resumed _ state)
  · exact running

theorem Acts.finish (interpreter : Interpreter) (state : σ) :
    Reaches interpreter (interpreter.finish observer state).1 := by
  have ended : Reaches interpreter { interpreter with status := .terminated, attached := false } :=
    .single .finish
  unfold Interpreter.finish
  dsimp only
  split
  · exact ended.trans (acts.terminated _ state)
  · exact ended

theorem Acts.runLines
    {lines : List String} (number : Nat) {interpreter : Interpreter} (state : σ)
    (inside : lines ⊆ interpreter.script) :
    Reaches interpreter (Interpreter.runLines observer lines number interpreter state).1 := by
  induction lines generalizing number interpreter state with
  | nil => exact acts.finish interpreter state
  | cons line rest inductionHypothesis =>
      have goOn {changed : Interpreter} (later : σ) (reaches : Reaches interpreter changed) :
          Reaches interpreter
            (Interpreter.runLines observer rest (number + 1) (changed.execute line) later).1 := by
        have member : line ∈ changed.script := reaches.script ▸ inside List.mem_cons_self
        have executed := reaches.next (.execute member)
        refine executed.trans (inductionHypothesis _ _ ?_)
        rw [executed.script]
        exact fun _ within => inside (List.mem_cons_of_mem _ within)
      unfold Interpreter.runLines
      split
      · exact acts.finish interpreter state
      split
      case isFalse => exact goOn state .refl
      case isTrue =>
        have asked := acts.stopsAt number interpreter state
        generalize observer.stopsAt number interpreter state = answer at asked ⊢
        obtain ⟨_ | _, shown, later⟩ := answer
        · exact goOn later asked
        · have waits := asked.next (.suspend (some number))
          have told := waits.trans (acts.suspended number _ later)
          dsimp only
          split
          · exact told.trans (acts.finish _ _)
          split
          · exact goOn _ (told.trans (acts.leaveSuspension _ _))
          · exact told

theorem Acts.proceed (interpreter : Interpreter) (state : σ) :
    Reaches interpreter (interpreter.proceed observer state).1 := by
  unfold Interpreter.proceed
  split
  case h_2 => exact .refl
  case h_1 place _ =>
    split
    · exact acts.finish interpreter state
    split
    case isFalse => exact .refl
    case isTrue =>
      have left := acts.leaveSuspension interpreter state
      generalize interpreter.leaveSuspension observer state = reaction at left ⊢
      obtain ⟨running, later⟩ := reaction
      cases place with
      | none => exact left.trans (acts.runLines 1 later (List.Subset.refl _))
      | some number =>
          dsimp only
          split
          case h_1 => exact left.trans (acts.finish running later)
          case h_2 line rest remaining =>
            have inside : line :: rest ⊆ running.script :=
              remaining ▸ List.drop_subset _ _
            have executed := left.next (.execute (inside List.mem_cons_self))
            refine executed.trans (acts.runLines _ later ?_)
            rw [executed.script, ← left.script]
            exact fun _ within => inside (List.mem_cons_of_mem _ within)

theorem Acts.run
    {interpreter halted : Interpreter} {state later : σ}
    (ran : interpreter.run observer state = .ok (halted, later)) :
    Reaches interpreter halted := by
  unfold Interpreter.run at ran
  cases started : interpreter.start with
  | error =>
      rw [started] at ran
      cases ran
  | ok running =>
      have begins : Reaches interpreter running := by
        have step : Step interpreter (interpreter.attempt interpreter.start).1 := .start
        rw [started] at step
        exact .single step
      rw [started] at ran
      dsimp only at ran
      split at ran
      case isFalse =>
        have halts := acts.runLines 1 state (List.Subset.refl running.script)
        rw [Except.ok.inj ran] at halts
        exact begins.trans halts
      case isTrue =>
        split at ran
        case isTrue =>
          have told := (begins.next (.suspend none)).trans (acts.loaded _ state)
          have halts := told.trans (acts.proceed _ (observer.loaded (running.suspendedAt none) state).2)
          rw [Except.ok.inj ran] at halts
          exact halts
        case isFalse =>
          have told := begins.trans (acts.loaded running state)
          have halts := told.trans (acts.runLines 1 (observer.loaded running state).2
            (List.Subset.refl _))
          rw [Except.ok.inj ran] at halts
          exact halts

end Runs

theorem acts_noting (stops : Nat → Bool) : Acts (Observer.noting stops) where
  loaded _ _ := .refl
  stopsAt _ _ _ := .refl
  suspended _ _ _ := .refl
  resumed _ _ := .refl
  terminated _ _ := .refl

/-! ## Rehearsed runs -/

theorem reaches_attempt
    {interpreter : Interpreter} {outcome : Except InterpreterError Interpreter}
    (rehearsal : Rehearsal) (step : Step interpreter (interpreter.attempt outcome).1) :
    Reaches interpreter (Performance.attempt interpreter rehearsal outcome).interpreter := by
  cases outcome with
  | ok => exact .single step
  | error => exact .refl

theorem reaches_perform (action : Action) (interpreter : Interpreter) (rehearsal : Rehearsal) :
    Reaches interpreter (action.perform interpreter rehearsal).interpreter := by
  cases action with
  | run => exact reaches_attempt rehearsal .start
  | resume => exact .single .resume
  | terminate => exact reaches_attempt rehearsal .terminate
  | setVariable name content => exact reaches_attempt rehearsal (.setVariable name content)
  | evaluate expression =>
      unfold Action.perform
      dsimp only
      split <;> exact .refl
  | attach => exact .single (.attach true)
  | detach => exact .single (.attach false)
  | bindings | memory | output | status | line | lineCount | addBreakpoint | removeBreakpoint =>
      exact .refl

theorem reaches_performAll
    (actions : List Action) (interpreter : Interpreter) (rehearsal : Rehearsal) :
    Reaches interpreter (performAll actions interpreter rehearsal).2.1 := by
  induction actions generalizing interpreter rehearsal with
  | nil => exact .refl
  | cons action rest inductionHypothesis =>
      exact (reaches_perform action interpreter rehearsal).trans (inductionHypothesis _ _)

theorem reaches_ensureWake
    (actions : List Action) (interpreter : Interpreter) (rehearsal : Rehearsal) :
    Reaches interpreter (ensureWake actions interpreter rehearsal).1 := by
  unfold ensureWake
  split
  · exact .refl
  · exact reaches_perform .terminate interpreter rehearsal

theorem acts_preparation (preparation : Preparation) : Acts preparation.observer where
  loaded interpreter rehearsal := by
    have played := reaches_performAll preparation.loaded interpreter rehearsal
    unfold Preparation.observer
    dsimp only
    split
    · exact played.trans (reaches_ensureWake _ _ _)
    · exact played
  stopsAt line interpreter rehearsal := by
    unfold Preparation.observer
    dsimp only
    split
    · exact .refl
    · exact reaches_performAll _ interpreter rehearsal
  suspended line interpreter rehearsal :=
    (reaches_performAll _ interpreter _).trans (reaches_ensureWake _ _ _)
  resumed := reaches_performAll preparation.resumed
  terminated := reaches_performAll preparation.terminated

/-- What is done with a script outside its runs, runs themselves included, can happen to it. -/
theorem reaches_rehearsed
    (preparation : Preparation) (action : Action) (interpreter : Interpreter)
    (rehearsal : Rehearsal) :
    Reaches interpreter (preparation.perform action interpreter rehearsal).interpreter := by
  unfold Preparation.perform
  split
  case h_1 =>
    split
    case h_1 halted later ran => exact (acts_preparation preparation).run ran
    case h_2 => exact .refl
  case h_2 => exact reaches_perform action interpreter rehearsal

/-- What evaluating the name of a variable gives, in terms of its text. -/
def named (name value : String) : Except InterpreterError String :=
  match readInteger value with
  | .ok integer => .ok (decimal integer)
  | .error _ => .error (.evaluation (.notANumber name value))

theorem evaluate_named
    {interpreter : Interpreter} {name value : String} (valid : isIdentifier name = true)
    (trimmed : Trimmed value.toList) (found : interpreter.bindings.get? name = some value) :
    interpreter.evaluate name = named name value := by
  have dollar : '$' ∉ name.toList := not_mem_identifier valid (by decide +kernel)
  have plain : ¬ opener <:+: name.toList := fun inside => dollar (inside.subset (by decide))
  have whole : trim value = value := by rw [trim, trimmed.trimChars_eq, String.ofList_toList]
  rw [Interpreter.evaluate, substitute_of_not_opener plain, evaluate_name valid, Variables.integer,
    found, named]
  dsimp only
  rw [whole]
  cases readInteger value <;> rfl

end Interpreter

open Interpreter in
/-- The identifiers are the texts that are scanned as a single identifier.  Whatever happens to a script
from its creation on, each of its variables has an identifier as its name and a text without blanks at its
ends, and evaluating the name gives the integer that the text is, or the error that it is none; and
performing an action, running the script before an observer and letting it go on can happen to it. -/
theorem variables_can_be_named :
    (∀ text, isIdentifier text = true ↔ scan text = .ok [⟨0, .identifier text⟩]) ∧
    ∀ source held interpreter,
      Reaches (Interpreter.ofSource source held) interpreter →
      (∀ name value,
        interpreter.bindings.get? name = some value →
        isIdentifier name = true ∧ Trimmed value.toList ∧
          interpreter.evaluate name = named name value) ∧
      (∀ (preparation : Preparation) action rehearsal,
        Reaches (Interpreter.ofSource source held)
          (preparation.perform action interpreter rehearsal).interpreter) ∧
      ∀ (σ : Type) (observer : Observer σ),
        Acts observer →
        ∀ state,
          Reaches (Interpreter.ofSource source held) (interpreter.proceed observer state).1 ∧
            ∀ halted later,
              interpreter.run observer state = .ok (halted, later) →
              Reaches (Interpreter.ofSource source held) halted := by
  refine ⟨isIdentifier_iff_scan, ?_⟩
  intro source held interpreter reaches
  have fresh : (Interpreter.ofSource source held).WellNamed := by
    intro name value found
    cases found
  refine ⟨?_, ?_, ?_⟩
  · intro name value found
    obtain ⟨valid, trimmed⟩ := reaches.wellNamed fresh name value found
    exact ⟨valid, trimmed, evaluate_named valid trimmed found⟩
  · intro preparation action rehearsal
    exact reaches.trans (reaches_rehearsed preparation action interpreter rehearsal)
  · intro σ observer acts state
    exact ⟨reaches.trans (acts.proceed interpreter state),
      fun halted later ran => reaches.trans (acts.run ran)⟩

open Interpreter in
/-- One variable is set to a negative integer and a line binds another to a text that is no integer. -/
theorem variables_can_be_named_question :
    ∃ interpreter,
      Reaches (Interpreter.ofSource "x=a?" false) interpreter ∧
      interpreter.bindings.get? "x" = some "a?" ∧
      interpreter.bindings.get? "y" = some "-7" ∧
      interpreter.evaluate "x" = .error (.evaluation (.notANumber "x" "a?")) ∧
      interpreter.evaluate "y" = .ok "-7" ∧
      ∃ halted,
        interpreter.run (Observer.noting fun _ => true) [] = .ok (halted, []) ∧
        Reaches (Interpreter.ofSource "x=a?" false) halted := by
  let fresh := Interpreter.ofSource "x=a?" false
  let assigned : Interpreter := { fresh with bindings := fresh.bindings.insert "y" "-7" }
  let executed : Interpreter := { fresh with bindings := assigned.bindings.insert "x" "a?" }
  have minus : coerce "-7" fresh.bindings = "-7" :=
    coerce_decimal (show InRange (-7) by norm_num [InRange]) fresh.bindings
  have question : coerce "a?" assigned.bindings = "a?" := by
    have replaced : substitute "a?" assigned.bindings = "a?" := by with_unfolding_all rfl
    have failure : scan "a?" = .error (.unexpectedCharacter '?' 1) := by with_unfolding_all rfl
    simp only [coerce, replaced, evaluate, failure]
    decide +kernel
  have reaches : Reaches fresh executed := by
    have first : Step fresh (fresh.attempt (fresh.setVariable "y" "-7")).1 := .setVariable "y" "-7"
    have member : "x=a?" ∈ assigned.script := by
      have script : assigned.script = ["x=a?"] := by with_unfolding_all rfl
      rw [script]
      exact List.mem_singleton_self _
    have second : Step assigned (assigned.execute "x=a?") := .execute member
    have statement : Statement.ofLine "x=a?" = .assign "x" "a?" := by with_unfolding_all rfl
    rw [Interpreter.setVariable, if_pos (by decide +kernel), minus] at first
    rw [Interpreter.execute, statement] at second
    dsimp only at second
    rw [question] at second
    exact (Relation.ReflTransGen.single first).tail second
  obtain ⟨variablesNamed, _, runs⟩ := variables_can_be_named.2 "x=a?" false executed reaches
  have text : executed.bindings.get? "x" = some "a?" := by decide +kernel
  have integer : executed.bindings.get? "y" = some "-7" := by decide +kernel
  have halts : ∃ halted, executed.run (Observer.noting fun _ => true) [] = .ok (halted, []) :=
    ⟨_, by with_unfolding_all rfl⟩
  refine ⟨executed, reaches, text, integer, ?_, ?_, ?_⟩
  · rw [(variablesNamed "x" "a?" text).2.2]
    with_unfolding_all rfl
  · rw [(variablesNamed "y" "-7" integer).2.2]
    with_unfolding_all rfl
  · obtain ⟨halted, ran⟩ := halts
    exact ⟨halted, ran, (runs _ _ (acts_noting _) []).2 halted [] ran⟩

end ScriptDebugger
