import ScriptDebugger.Text.Parts

/-!
# Texts of lines

Lines without line feeds can be written into one text from which they are read back, and the lines of
every text are of this kind.
-/

namespace ScriptDebugger.Text

/-- A text of one line, without a line feed. -/
def IsLine (text : String) : Prop :=
  '\n' ∉ text.toList

instance (text : String) : Decidable (IsLine text) :=
  inferInstanceAs (Decidable ('\n' ∉ text.toList))

/-- The text of lines, each ended by a carriage return and a line feed. -/
def unlines (lines : List String) : String :=
  String.ofList (lines.flatMap fun line => line.toList ++ ['\r', '\n'])

theorem linesFrom_append
    (found : Array String) (reversed : List Char) {line : List Char} (rest : List Char)
    (single : '\n' ∉ line) :
    linesFrom found reversed (line ++ rest) = linesFrom found (line.reverse ++ reversed) rest := by
  induction line generalizing reversed with
  | nil => rfl
  | cons first others inductionHypothesis =>
      have parts : '\n' ≠ first ∧ '\n' ∉ others := by simpa using single
      rw [List.cons_append, linesFrom, if_neg parts.1.symm, inductionHypothesis _ parts.2,
        List.reverse_cons, List.append_assoc]
      rfl

theorem linesFrom_line
    (found : Array String) {line : String} (rest : List Char) (single : IsLine line) :
    linesFrom found [] (line.toList ++ '\r' :: '\n' :: rest) =
      linesFrom (found.push line) [] rest := by
  have text : endedLine ('\r' :: line.toList.reverse) = line := by simp [endedLine]
  rw [linesFrom_append found [] _ single, List.append_nil, linesFrom, if_neg (by decide), linesFrom,
    if_pos rfl, text]

/-- Lines are read back from their text. -/
theorem lines_unlines {written : List String} (single : ∀ line ∈ written, IsLine line) :
    lines (unlines written) = written := by
  have all : ∀ found : Array String,
      (linesFrom found [] (written.flatMap fun line => line.toList ++ ['\r', '\n'])).toList =
        found.toList ++ written := by
    induction written with
    | nil =>
        intro found
        simp [linesFrom]
    | cons line others inductionHypothesis =>
        intro found
        have first := single line List.mem_cons_self
        have later := inductionHypothesis (fun other member =>
          single other (List.mem_cons_of_mem _ member)) (found.push line)
        rw [List.flatMap_cons, List.append_assoc, List.cons_append, List.cons_append,
          List.nil_append, linesFrom_line found _ first, later]
        simp
  rw [lines, unlines, String.toList_ofList, all]
  rfl

theorem isLine_endedLine {reversed : List Char} (single : '\n' ∉ reversed) :
    IsLine (endedLine reversed) := by
  unfold endedLine IsLine
  split
  · simpa using fun member => single (List.mem_cons_of_mem _ member)
  · simpa using single

theorem isLine_linesFrom
    {found : Array String} {reversed : List Char} (characters : List Char)
    (before : ∀ line ∈ found, IsLine line) (single : '\n' ∉ reversed) :
    ∀ line ∈ linesFrom found reversed characters, IsLine line := by
  induction characters generalizing found reversed with
  | nil =>
      intro line member
      unfold linesFrom at member
      split at member
      · exact before line member
      · rcases Array.mem_push.mp member with earlier | same
        · exact before line earlier
        · rw [same]
          simpa [IsLine] using single
  | cons first rest inductionHypothesis =>
      unfold linesFrom
      split
      · refine inductionHypothesis ?_ List.not_mem_nil
        intro line member
        rcases Array.mem_push.mp member with earlier | same
        · exact before line earlier
        · rw [same]
          exact isLine_endedLine single
      case isFalse other =>
        exact inductionHypothesis before (by simpa using ⟨Ne.symm other, single⟩)

theorem isLine_of_mem_lines {text line : String} (member : line ∈ lines text) : IsLine line := by
  have none : ∀ line ∈ (#[] : Array String), IsLine line := by simp
  have all := isLine_linesFrom text.toList none List.not_mem_nil
  exact all line (by simpa [lines] using member)

/-! ## Parts between separators -/

theorem fields_ne_nil (separator : Char) (characters : List Char) :
    fields separator characters ≠ [] := by
  cases characters with
  | nil => simp [fields]
  | cons c rest =>
      unfold fields
      split
      · simp
      · split <;> simp

theorem fields_append (separator : Char) (first second : List Char) :
    fields separator (first ++ separator :: second) =
      fields separator first ++ fields separator second := by
  induction first with
  | nil => simp [fields]
  | cons c rest inductionHypothesis =>
      rw [List.cons_append, fields, fields, inductionHypothesis]
      by_cases same : c = separator
      · simp [same]
      · cases parts : fields separator rest with
        | nil => exact absurd parts (fields_ne_nil separator rest)
        | cons part others => simp [same]

theorem fields_of_not_mem
    {separator : Char} {characters : List Char} (none : separator ∉ characters) :
    fields separator characters = [characters] := by
  induction characters with
  | nil => rfl
  | cons c rest inductionHypothesis =>
      rw [List.mem_cons, not_or] at none
      rw [fields, if_neg (Ne.symm none.1), inductionHypothesis none.2]

/-- Parts without the separator are read back from the text that they are written into. -/
theorem fields_intercalate
    {separator : Char} {parts : List (List Char)} (some : parts ≠ [])
    (none : ∀ part ∈ parts, separator ∉ part) :
    fields separator ([separator].intercalate parts) = parts := by
  induction parts with
  | nil => exact absurd rfl some
  | cons part others inductionHypothesis =>
      have first := fields_of_not_mem (none part List.mem_cons_self)
      by_cases last : others = []
      · rw [last, List.intercalate_singleton, first]
      · have later := inductionHypothesis last fun other member =>
          none other (List.mem_cons_of_mem _ member)
        rw [List.intercalate_cons_of_ne_nil last, List.append_assoc, List.singleton_append,
          fields_append, first, later]
        rfl

end ScriptDebugger.Text
