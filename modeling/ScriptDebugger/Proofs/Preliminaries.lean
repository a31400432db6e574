import Mathlib.Data.List.TakeWhile

/-!
# Results and lists

Facts about results, folds and runs of characters that do not depend on anything else here.
-/

namespace ScriptDebugger

/-! ## Results -/

theorem Except.bind_eq_ok
    {ε α β : Type} {result : Except ε α} {next : α → Except ε β} {value : β}
    (success : result.bind next = .ok value) :
    ∃ first, result = .ok first ∧ next first = .ok value := by
  cases result with
  | error error => cases success
  | ok first => exact ⟨first, rfl, success⟩

theorem Except.map_eq_ok
    {ε α β : Type} {result : Except ε α} {change : α → β} {value : β}
    (success : result.map change = .ok value) :
    ∃ first, result = .ok first ∧ change first = value := by
  cases result with
  | error error => cases success
  | ok first => exact ⟨first, rfl, Except.ok.inj success⟩

/-! ## Folds -/

/-- What every item of a list replaces or keeps is in the end what the last item that replaces it makes
of it. -/
theorem foldl_eq_last
    {σ α β ρ : Type} {step : σ → α → σ} (read : σ → ρ) {change? : α → Option β} {value : β → ρ}
    (stepped : ∀ state item, read (step state item) = (change? item).elim (read state) value)
    (items : List α) (state : σ) :
    read (items.foldl step state) =
      (items.filterMap change?).getLast?.elim (read state) value := by
  induction items generalizing state with
  | nil => rfl
  | cons item later inductionHypothesis =>
      rw [List.foldl_cons, inductionHypothesis, stepped]
      cases changed : change? item with
      | none => rw [List.filterMap_cons_none changed, Option.elim_none]
      | some first =>
          rw [List.filterMap_cons_some changed, List.getLast?_cons, Option.elim_some]
          cases (later.filterMap change?).getLast? <;> rfl

/-! ## Runs of characters -/

namespace Text

theorem head?_dropWhile
    {p : Char → Bool} {characters : List Char} {c : Char}
    (first : (characters.dropWhile p).head? = some c) :
    p c = false := by
  have stopped := List.head?_dropWhile_not p characters
  rw [first] at stopped
  exact stopped

section Runs

variable {p : Char → Bool} {word after : List Char} (all : ∀ c ∈ word, p c = true)
  (stops : ∀ c, after.head? = some c → p c = false)

include all stops

theorem takeWhile_run : (word ++ after).takeWhile p = word := by
  rw [List.takeWhile_append_of_pos all]
  cases after with
  | nil => simp
  | cons c rest => simp [stops c rfl]

theorem dropWhile_run : (word ++ after).dropWhile p = after := by
  rw [List.dropWhile_append_of_pos all]
  cases after with
  | nil => simp
  | cons c rest => simp [stops c rfl]

end Runs

section Others

variable {p : Char → Bool} {blanks : List Char} (others : ∀ c ∈ blanks, p c = false)
  (characters : List Char)

include others

theorem takeWhile_append_others :
    (characters ++ blanks).takeWhile p = characters.takeWhile p := by
  induction characters with
  | nil =>
      cases blanks with
      | nil => rfl
      | cons c rest => simp [others c List.mem_cons_self]
  | cons c rest inductionHypothesis =>
      rw [List.cons_append, List.takeWhile_cons, List.takeWhile_cons, inductionHypothesis]

theorem dropWhile_append_others :
    (characters ++ blanks).dropWhile p = characters.dropWhile p ++ blanks := by
  induction characters with
  | nil =>
      cases blanks with
      | nil => rfl
      | cons c rest => simp [others c List.mem_cons_self]
  | cons c rest inductionHypothesis =>
      rw [List.cons_append, List.dropWhile_cons, List.dropWhile_cons, inductionHypothesis]
      split <;> rfl

end Others

end Text

end ScriptDebugger
