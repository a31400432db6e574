import ScriptDebugger.Proofs.Preliminaries
import ScriptDebugger.Text.Parts

/-!
# Blanks

No blank is part of an identifier or a number, and trimming takes exactly the blanks off the ends.
-/

namespace ScriptDebugger.Text

/-! ## Blanks are of no other kind -/

/-- The code points of ranges, one by one. -/
def Ranges.codes (ranges : Ranges) : List Nat :=
  ranges.flatMap fun range => List.range' range.1 (range.2 + 1 - range.1)

theorem Ranges.mem_codes
    {ranges : Ranges} {code : Nat} (covered : ranges.covers code = true) :
    code ∈ ranges.codes := by
  induction ranges with
  | nil => cases covered
  | cons range rest inductionHypothesis =>
      obtain ⟨first, last⟩ := range
      rw [codes, List.flatMap_cons, List.mem_append]
      unfold covers at covered
      split at covered
      · cases covered
      · split at covered
        · left
          rw [List.mem_range'_1]
          omega
        · exact .inr (inductionHypothesis covered)

theorem blank_codes :
    ∀ code ∈ blankRanges.codes,
      alphabeticRanges.covers code = false ∧ numericRanges.covers code = false ∧
        (code < 48 ∨ 57 < code) := by
  decide +kernel

theorem continuesIdentifier_of_isBlank {c : Char} (blank : isBlank c = true) :
    continuesIdentifier c = false := by
  obtain ⟨alphabetic, numeric, _⟩ := blank_codes c.toNat (Ranges.mem_codes blank)
  have underscore : c ≠ '_' := by
    rintro rfl
    revert blank
    decide
  simp [continuesIdentifier, isAlphanumeric, isAlphabetic, isNumeric, alphabetic, numeric,
    underscore]

theorem isDigit_of_isBlank {c : Char} (blank : isBlank c = true) : c.isDigit = false := by
  obtain ⟨_, _, outside⟩ := blank_codes c.toNat (Ranges.mem_codes blank)
  simp only [Char.toNat] at outside
  simp only [Char.isDigit, Bool.and_eq_false_iff, decide_eq_false_iff_not, ge_iff_le,
    UInt32.le_iff_toNat_le]
  have zero : '0'.val.toNat = 48 := rfl
  have nine : '9'.val.toNat = 57 := rfl
  omega

theorem ne_of_isBlank {c other : Char} (blank : isBlank c = true) (solid : isBlank other = false) :
    c ≠ other := by
  rintro rfl
  rw [blank] at solid
  cases solid

theorem isIdentifierChars_cons {characters : List Char} (valid : isIdentifierChars characters = true) :
    ∃ first rest, characters = first :: rest ∧ startsIdentifier first = true ∧
      ∀ c ∈ characters, continuesIdentifier c = true := by
  cases characters with
  | nil => cases valid
  | cons first rest =>
      simp only [isIdentifierChars, Bool.and_eq_true, List.all_eq_true] at valid
      refine ⟨first, rest, rfl, valid.1, ?_⟩
      intro c member
      rcases List.mem_cons.mp member with rfl | later
      · have start := valid.1
        simp only [startsIdentifier, Bool.or_eq_true] at start
        rcases start with letter | underscore
        · simp [continuesIdentifier, isAlphanumeric, letter]
        · simp [continuesIdentifier, underscore]
      · exact valid.2 c later

theorem not_mem_identifier
    {characters : List Char} {c : Char} (valid : isIdentifierChars characters = true)
    (other : continuesIdentifier c = false) :
    c ∉ characters := by
  intro member
  obtain ⟨_, _, _, _, continues⟩ := isIdentifierChars_cons valid
  rw [continues c member] at other
  cases other

theorem isBlank_of_continuesIdentifier {c : Char} (continues : continuesIdentifier c = true) :
    isBlank c = false := by
  cases blank : isBlank c with
  | false => rfl
  | true =>
      rw [continuesIdentifier_of_isBlank blank] at continues
      cases continues

/-! ## Trimming -/

/-- Characters that are all blanks. -/
def AllBlank (characters : List Char) : Prop :=
  ∀ c ∈ characters, isBlank c = true

instance (characters : List Char) : Decidable (AllBlank characters) :=
  List.decidableBAll (fun c => isBlank c = true) characters

theorem AllBlank.of_cons {c : Char} {rest : List Char} (blank : AllBlank (c :: rest)) :
    isBlank c = true ∧ AllBlank rest :=
  List.forall_mem_cons.mp blank

theorem exists_blanks (characters : List Char) :
    ∃ blanks, AllBlank blanks ∧ characters = trimEnd characters ++ blanks := by
  refine ⟨(characters.reverse.takeWhile isBlank).reverse, ?_, ?_⟩
  · intro c member
    exact List.mem_takeWhile_imp (List.mem_reverse.mp member)
  · rw [trimEnd, ← List.reverse_append, List.takeWhile_append_dropWhile, List.reverse_reverse]

theorem AllBlank.dropWhile {characters : List Char} (blank : AllBlank characters) :
    characters.dropWhile isBlank = [] :=
  List.dropWhile_eq_nil_iff.mpr blank

theorem trimEnd_append
    (characters : List Char) {blanks : List Char} (blank : AllBlank blanks) :
    trimEnd (characters ++ blanks) = trimEnd characters := by
  have reversed : AllBlank blanks.reverse := fun c member => blank c (List.mem_reverse.mp member)
  rw [trimEnd, List.reverse_append, List.dropWhile_append, reversed.dropWhile]
  rfl

theorem trimChars_append
    (characters : List Char) {blanks : List Char} (blank : AllBlank blanks) :
    trimChars (characters ++ blanks) = trimChars characters := by
  rw [trimChars, trimStart, List.dropWhile_append, blank.dropWhile]
  split
  case isTrue none =>
    rw [trimChars, trimStart, List.isEmpty_iff.mp none]
  case isFalse => exact trimEnd_append _ blank

theorem trimEnd_append_cons
    (before : List Char) {c : Char} (after : List Char) (solid : isBlank c = false) :
    trimEnd (before ++ c :: after) = before ++ c :: trimEnd after := by
  have reversed : (before ++ c :: after).reverse = after.reverse ++ c :: before.reverse := by simp
  rw [trimEnd, reversed, List.dropWhile_append]
  split
  case isTrue none =>
    rw [List.dropWhile_cons_of_neg (by simp [solid]), trimEnd, List.isEmpty_iff.mp none]
    simp
  case isFalse =>
    rw [trimEnd]
    simp

theorem trimStart_cons {first : Char} (rest : List Char) (solid : isBlank first = false) :
    trimStart (first :: rest) = first :: rest :=
  List.dropWhile_cons_of_neg (by simp [solid])

theorem trimStart_of_head?
    {characters : List Char} (solid : ∀ c, characters.head? = some c → isBlank c = false) :
    trimStart characters = characters := by
  cases characters with
  | nil => rfl
  | cons first rest => exact trimStart_cons rest (solid first rfl)

theorem trimEnd_of_getLast?
    {characters : List Char} (solid : ∀ c, characters.getLast? = some c → isBlank c = false) :
    trimEnd characters = characters := by
  rw [trimEnd, ← trimStart, trimStart_of_head?, List.reverse_reverse]
  intro c first
  rw [List.head?_reverse] at first
  exact solid c first

/-- Characters with no blank at their ends. -/
def Trimmed (characters : List Char) : Prop :=
  ∀ c, characters.head? = some c ∨ characters.getLast? = some c → isBlank c = false

theorem Trimmed.trimChars_eq {characters : List Char} (trimmed : Trimmed characters) :
    trimChars characters = characters := by
  rw [trimChars, trimStart_of_head? (fun c first => trimmed c (Or.inl first)),
    trimEnd_of_getLast? (fun c last => trimmed c (Or.inr last))]

theorem trimmed_of_solid {characters : List Char} (solid : ∀ c ∈ characters, isBlank c = false) :
    Trimmed characters := by
  rintro c (first | last)
  · exact solid c (List.mem_of_head? first)
  · exact solid c (List.mem_of_getLast? last)

theorem trimChars_of_solid {characters : List Char} (solid : ∀ c ∈ characters, isBlank c = false) :
    trimChars characters = characters :=
  (trimmed_of_solid solid).trimChars_eq

theorem isBlank_of_getLast?_trimEnd
    {characters : List Char} {c : Char} (last : (trimEnd characters).getLast? = some c) :
    isBlank c = false := by
  rw [trimEnd, List.getLast?_reverse] at last
  exact head?_dropWhile last

theorem trimmed_trimChars (characters : List Char) : Trimmed (trimChars characters) := by
  rintro c (first | last)
  · obtain ⟨blanks, _, parts⟩ := exists_blanks (trimStart characters)
    have start : (trimStart characters).head? = some c := by
      rw [parts, List.head?_append]
      exact Option.or_eq_some_iff.mpr (Or.inl first)
    exact head?_dropWhile start
  · exact isBlank_of_getLast?_trimEnd last

/-- What trimming takes off a text are blanks before and after it. -/
theorem exists_blanks_around (characters : List Char) :
    ∃ before after, AllBlank before ∧ AllBlank after ∧
      characters = before ++ (trimChars characters ++ after) := by
  obtain ⟨after, blank, parts⟩ := exists_blanks (trimStart characters)
  refine ⟨characters.takeWhile isBlank, after, fun c member => List.mem_takeWhile_imp member, blank, ?_⟩
  rw [trimChars, ← parts, trimStart, List.takeWhile_append_dropWhile]

end ScriptDebugger.Text
