/-!
# Variables

The variables of a script: a finite map from names to texts, kept in ascending order of the names, so
that two maps with the same bindings are equal. Main statements: `Variables.get?_insert` says what an
assignment does to every look-up.
-/

namespace ScriptDebugger

/-! ## Ascending entries -/

/-- Entries whose names ascend strictly. -/
def Ascending (entries : List (String × String)) : Prop :=
  entries.Pairwise fun first second => first.1 < second.1

/-- The entries with `name` bound to `value`, at the place of its order. -/
def insertEntry (name value : String) : List (String × String) → List (String × String)
  | [] => [(name, value)]
  | entry :: rest =>
    if name < entry.1 then (name, value) :: entry :: rest
    else if name = entry.1 then (name, value) :: rest
    else entry :: insertEntry name value rest

theorem fst_mem_of_mem_insertEntry
    {name value : String} {entries : List (String × String)} {entry : String × String}
    (member : entry ∈ insertEntry name value entries) :
    entry.1 = name ∨ entry ∈ entries := by
  induction entries with
  | nil => simp_all [insertEntry]
  | cons head tail inductionHypothesis =>
    unfold insertEntry at member
    split at member
    · simp only [List.mem_cons] at member
      rcases member with rfl | rest
      · exact Or.inl rfl
      · exact Or.inr (by simpa using rest)
    · split at member
      · simp only [List.mem_cons] at member
        rcases member with rfl | rest
        · exact Or.inl rfl
        · exact Or.inr (List.mem_cons_of_mem head rest)
      · simp only [List.mem_cons] at member
        rcases member with rfl | rest
        · exact Or.inr List.mem_cons_self
        · rcases inductionHypothesis rest with same | old
          · exact Or.inl same
          · exact Or.inr (List.mem_cons_of_mem head old)

theorem ascending_insertEntry
    (name value : String) {entries : List (String × String)}
    (ascending : Ascending entries) :
    Ascending (insertEntry name value entries) := by
  induction entries with
  | nil => simp [insertEntry, Ascending]
  | cons head tail inductionHypothesis =>
    have parts := List.pairwise_cons.mp ascending
    unfold insertEntry
    split
    case isTrue before =>
      refine List.pairwise_cons.mpr ⟨?_, ascending⟩
      intro entry member
      rcases List.mem_cons.mp member with rfl | later
      · exact before
      · exact String.lt_trans before (parts.1 entry later)
    case isFalse notBefore =>
      split
      case isTrue same => exact List.pairwise_cons.mpr ⟨same ▸ parts.1, parts.2⟩
      case isFalse different =>
        refine List.pairwise_cons.mpr ⟨?_, inductionHypothesis parts.2⟩
        intro entry member
        rcases fst_mem_of_mem_insertEntry member with same | old
        · rw [same]
          grind
        · exact parts.1 entry old

/-! ## The map -/

/-- A finite map from names to texts. -/
structure Variables where
  entries : List (String × String)
  ascending : Ascending entries
  deriving DecidableEq

namespace Variables

/-- No variables. -/
def empty : Variables where
  entries := []
  ascending := List.Pairwise.nil

instance : Inhabited Variables := ⟨empty⟩

/-- The text bound to a name. -/
def get? (bindings : Variables) (name : String) : Option String :=
  bindings.entries.lookup name

/-- The variables with `name` bound to `value`. -/
def insert (bindings : Variables) (name value : String) : Variables where
  entries := insertEntry name value bindings.entries
  ascending := ascending_insertEntry name value bindings.ascending

/-- The variables bound one after the other, a later binding in place of an earlier one. -/
def ofList (pairs : List (String × String)) : Variables :=
  pairs.foldl (fun bindings binding => bindings.insert binding.1 binding.2) empty

end Variables

theorem lookup_insertEntry
    (name value other : String) {entries : List (String × String)}
    (ascending : Ascending entries) :
    (insertEntry name value entries).lookup other =
      if other = name then some value else entries.lookup other := by
  induction entries with
  | nil =>
    by_cases same : other = name
    · simp [insertEntry, same]
    · simp [insertEntry, List.lookup_cons, same, beq_false_of_ne same]
  | cons head tail inductionHypothesis =>
    have parts := List.pairwise_cons.mp ascending
    have later := inductionHypothesis parts.2
    unfold insertEntry
    split
    · grind
    · split <;> grind

@[simp]
theorem Variables.get?_insert
    (bindings : Variables) (name value other : String) :
    (bindings.insert name value).get? other =
      if other = name then some value else bindings.get? other :=
  lookup_insertEntry name value other bindings.ascending

@[simp]
theorem Variables.get?_empty (name : String) : Variables.empty.get? name = none :=
  rfl

end ScriptDebugger
