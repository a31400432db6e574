import ScriptDebugger.Proofs.Interpreter.Stops
import ScriptDebugger.Proofs.Text.Lines

/-!
# Edited scripts

An edit is a line to be inserted before a line of a script.  What an edited script computes is known up
to a line when the edits up to there are; later lines come after it, and a new edit before the line
comes at its end.
-/

namespace ScriptDebugger

/-- A line to be inserted before the line of a number. -/
structure Edit where
  line : Nat
  text : String

/-- The lines to be inserted before a line, in the order of the edits. -/
def insertedAt (edits : List Edit) (number : Nat) : List String :=
  (edits.filter fun edit => edit.line = number).map Edit.text

/-- The lines from a number on, with the edits made.  Edits behind the last line come at the end. -/
def editedFrom (edits : List Edit) : Nat → List String → List String
  | number, [] => insertedAt edits number
  | number, line :: rest => insertedAt edits number ++ line :: editedFrom edits (number + 1) rest

/-- A script with edits made. -/
def edited (script : List String) (edits : List Edit) : List String :=
  editedFrom edits 1 script

theorem editedFrom_append
    (edits : List Edit) (number : Nat) (before : List String) (line : String)
    (after : List String) :
    editedFrom edits number (before ++ line :: after) =
      editedFrom edits number before ++
        line :: editedFrom edits (number + before.length + 1) after := by
  induction before generalizing number with
  | nil => rfl
  | cons first rest inductionHypothesis =>
      have shift : number + 1 + rest.length = number + (first :: rest).length := by
        rw [List.length_cons]
        omega
      rw [List.cons_append, editedFrom, inductionHypothesis, shift, editedFrom, List.append_assoc]
      rfl

theorem insertedAt_of_lt
    {edits : List Edit} {number : Nat} (early : ∀ edit ∈ edits, edit.line < number) :
    insertedAt edits number = [] := by
  have none : (edits.filter fun edit => edit.line = number) = [] := by
    rw [List.filter_eq_nil_iff]
    intro edit member
    have before := early edit member
    simp only [decide_eq_true_eq]
    omega
  rw [insertedAt, none]
  rfl

theorem editedFrom_of_lt
    {edits : List Edit} {number : Nat} (lines : List String)
    (early : ∀ edit ∈ edits, edit.line < number) :
    editedFrom edits number lines = lines := by
  induction lines generalizing number with
  | nil => exact insertedAt_of_lt early
  | cons line rest inductionHypothesis =>
      have later := inductionHypothesis (fun edit member => Nat.lt_succ_of_lt (early edit member))
      rw [editedFrom, insertedAt_of_lt early, later]
      rfl

/-- Behind the last edit the lines of a script stand as they are. -/
theorem edited_take
    (script : List String) {edits : List Edit} {line later : Nat} (positive : 1 ≤ line)
    (beyond : line ≤ later) (early : ∀ edit ∈ edits, edit.line ≤ line) :
    edited (script.take (later - 1)) edits =
      edited (script.take (line - 1)) edits ++ linesBetween script line later := by
  have parts : script.take (later - 1) =
      script.take (line - 1) ++ linesBetween script line later := by
    have sum : later - 1 = (line - 1) + (later - line) := by omega
    rw [linesBetween, sum, List.take_add]
  rw [parts]
  -- Unless there are no lines in between, the cut has `line - 1` lines and all edits lie within it.
  cases between : linesBetween script line later with
  | nil => rw [List.append_nil, List.append_nil]
  | cons text rest =>
      have length : (script.take (line - 1)).length = line - 1 := by
        rw [linesBetween] at between
        have nonempty : script.drop (line - 1) ≠ [] := by
          intro none
          rw [none, List.take_nil] at between
          cases between
        have inside : line - 1 < script.length := by simpa using nonempty
        rw [List.length_take]
        omega
      have after : ∀ edit ∈ edits, edit.line < 1 + (script.take (line - 1)).length + 1 := by
        intro edit member
        have bound := early edit member
        omega
      rw [edited, editedFrom_append, editedFrom_of_lt rest after, edited]

theorem insertedAt_concat (edits : List Edit) (edit : Edit) (number : Nat) :
    insertedAt (edits ++ [edit]) number =
      insertedAt edits number ++ if edit.line = number then [edit.text] else [] := by
  rw [insertedAt, List.filter_append, List.map_append, insertedAt]
  by_cases same : edit.line = number <;> simp [same]

/-- A new edit before the line behind the last one comes at the end. -/
theorem editedFrom_concat
    (edits : List Edit) (number : Nat) (lines : List String) (text : String) :
    editedFrom (edits ++ [⟨number + lines.length, text⟩]) number lines =
      editedFrom edits number lines ++ [text] := by
  induction lines generalizing number with
  | nil => simp [editedFrom, insertedAt_concat]
  | cons line rest inductionHypothesis =>
      have shift : number + (line :: rest).length = number + 1 + rest.length := by
        rw [List.length_cons]
        omega
      have elsewhere : ¬ number + 1 + rest.length = number := by omega
      rw [shift, editedFrom, insertedAt_concat, if_neg elsewhere, inductionHypothesis, editedFrom]
      simp

theorem edited_concat
    {script : List String} {line : Nat} (edits : List Edit) (text : String)
    (positive : 1 ≤ line) (within : line ≤ script.length + 1) :
    edited (script.take (line - 1)) (edits ++ [⟨line, text⟩]) =
      edited (script.take (line - 1)) edits ++ [text] := by
  have length : 1 + (script.take (line - 1)).length = line := by
    rw [List.length_take]
    omega
  have extended := editedFrom_concat edits 1 (script.take (line - 1)) text
  rw [length] at extended
  exact extended

/-- The edited script goes on with the line behind the cut. -/
theorem edited_take_prefix
    {script : List String} {line : Nat} {text : String} (edits : List Edit)
    (found : script[line - 1]? = some text) :
    edited (script.take (line - 1)) edits ++ [text] <+: edited script edits := by
  obtain ⟨inside, same⟩ := List.getElem?_eq_some_iff.mp found
  have parts : script = script.take (line - 1) ++ text :: script.drop (line - 1 + 1) := by
    rw [← same, ← List.drop_eq_getElem_cons inside, List.take_append_drop]
  have whole := editedFrom_append edits 1 (script.take (line - 1)) text
    (script.drop (line - 1 + 1))
  rw [← parts] at whole
  refine ⟨editedFrom edits (1 + (script.take (line - 1)).length + 1)
    (script.drop (line - 1 + 1)), ?_⟩
  rw [edited, edited, whole, List.append_assoc]
  rfl

theorem isLine_editedFrom
    {edits : List Edit} {number : Nat} {lines : List String}
    (singleLines : ∀ line ∈ lines, Text.IsLine line)
    (singleEdits : ∀ edit ∈ edits, Text.IsLine edit.text) :
    ∀ line ∈ editedFrom edits number lines, Text.IsLine line := by
  have inserted : ∀ number, ∀ line ∈ insertedAt edits number, Text.IsLine line := by
    intro number line member
    obtain ⟨edit, present, rfl⟩ := List.mem_map.mp member
    exact singleEdits edit (List.mem_filter.mp present).1
  induction lines generalizing number with
  | nil => exact inserted number
  | cons first rest inductionHypothesis =>
      intro line member
      rw [editedFrom] at member
      rcases List.mem_append.mp member with before | after
      · exact inserted number line before
      · rcases List.mem_cons.mp after with rfl | later
        · exact singleLines _ List.mem_cons_self
        · exact inductionHypothesis
            (fun other present => singleLines other (List.mem_cons_of_mem _ present)) line later

end ScriptDebugger
