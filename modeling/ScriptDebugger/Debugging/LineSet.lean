/-!
# Sets of lines

Line numbers in strictly ascending order, so that two sets with the same members are equal.
-/

namespace ScriptDebugger

/-- The ascending lines with one more, at the place of its order. -/
def insertLine (line : Nat) : List Nat → List Nat
  | [] => [line]
  | head :: rest =>
    if line < head then line :: head :: rest
    else if line = head then head :: rest
    else head :: insertLine line rest

theorem mem_insertLine
    {line other : Nat} {lines : List Nat} :
    other ∈ insertLine line lines ↔ other = line ∨ other ∈ lines := by
  induction lines with
  | nil => simp [insertLine]
  | cons head tail inductionHypothesis =>
    unfold insertLine
    split
    · simp
    · split
      case isTrue same => simp [same]
      case isFalse => simp [inductionHypothesis, or_left_comm]

theorem ascending_insertLine
    (line : Nat) {lines : List Nat}
    (ascending : lines.Pairwise (· < ·)) :
    (insertLine line lines).Pairwise (· < ·) := by
  induction lines with
  | nil => simp [insertLine]
  | cons head tail inductionHypothesis =>
    have parts := List.pairwise_cons.mp ascending
    unfold insertLine
    split
    case isTrue before =>
      refine List.pairwise_cons.mpr ⟨?_, ascending⟩
      intro other member
      rcases List.mem_cons.mp member with rfl | later
      · exact before
      · exact Nat.lt_trans before (parts.1 other later)
    case isFalse notBefore =>
      split
      · exact ascending
      case isFalse different =>
        refine List.pairwise_cons.mpr ⟨?_, inductionHypothesis parts.2⟩
        intro other member
        rcases mem_insertLine.mp member with rfl | old
        · omega
        · exact parts.1 other old

/-- A finite set of line numbers. -/
structure LineSet where
  lines : List Nat
  ascending : lines.Pairwise (· < ·)
  deriving DecidableEq

namespace LineSet

/-- No lines. -/
def empty : LineSet where
  lines := []
  ascending := List.Pairwise.nil

instance : Inhabited LineSet := ⟨empty⟩

instance : Membership Nat LineSet where
  mem set line := line ∈ set.lines

instance (line : Nat) (set : LineSet) : Decidable (line ∈ set) :=
  inferInstanceAs (Decidable (line ∈ set.lines))

/-- The set with one more line. -/
def insert (set : LineSet) (line : Nat) : LineSet where
  lines := insertLine line set.lines
  ascending := ascending_insertLine line set.ascending

/-- The set without a line. -/
def erase (set : LineSet) (line : Nat) : LineSet where
  lines := set.lines.filter (· ≠ line)
  ascending := set.ascending.filter _

/-- The set of the lines of a list. -/
def ofList (lines : List Nat) : LineSet :=
  lines.foldl insert empty

@[simp]
theorem not_mem_empty (line : Nat) : line ∉ empty :=
  List.not_mem_nil

@[simp]
theorem mem_insert {set : LineSet} {line other : Nat} :
    other ∈ set.insert line ↔ other = line ∨ other ∈ set :=
  mem_insertLine

@[simp]
theorem mem_erase {set : LineSet} {line other : Nat} :
    other ∈ set.erase line ↔ other ∈ set ∧ other ≠ line := by
  change other ∈ set.lines.filter _ ↔ other ∈ set.lines ∧ other ≠ line
  simp

end LineSet

end ScriptDebugger
