import Mathlib.Data.List.Basic
import ScriptDebugger.Proofs.Script.Assignment

/-!
# References are replaced in one pass

A text is cut at its references from left to right: what comes before the leftmost opening of a reference,
the name up to the first closing brace, and so on after it.  How it is cut depends on the text alone.  The
replaced text consists of the same pieces, with the texts of the bound variables in place of the
references to them.
-/

namespace ScriptDebugger

open Text

/-! ## Pieces of a text -/

/-- The characters that open a reference. -/
def opener : List Char :=
  ['$', '{']

/-- A piece of a text: characters that open no reference, a reference to a name, or characters after an
opening that nothing closes. -/
inductive Piece where
  | plain (characters : List Char)
  | reference (name : List Char)
  | unclosed (characters : List Char)
  deriving DecidableEq, Repr

/-- The characters that a piece is in the text. -/
def Piece.source : Piece → List Char
  | .plain characters => characters
  | .reference name => opener ++ name ++ ['}']
  | .unclosed characters => opener ++ characters

/-- The characters that stand for a piece in the replaced text. -/
def Piece.filled (bindings : Variables) : Piece → List Char
  | .reference name =>
    match bindings.get? (String.ofList name) with
    | some value => value.toList
    | none => (Piece.reference name).source
  | piece => piece.source

/-- `Cuts text pieces` means that the pieces are what a pass from left to right cuts the text into. -/
inductive Cuts : List Char → List Piece → Prop
  | plain {text : List Char} :
      ¬ opener <:+: text →
      Cuts text [.plain text]
  | unclosed {before rest : List Char} :
      ¬ opener <:+: before →
      '}' ∉ rest →
      Cuts (before ++ (opener ++ rest)) [.plain before, .unclosed rest]
  | reference {before name rest : List Char} {pieces : List Piece} :
      ¬ opener <:+: before →
      '}' ∉ name →
      Cuts rest pieces →
      Cuts (before ++ (opener ++ name ++ ['}'] ++ rest))
        (.plain before :: .reference name :: pieces)

theorem Cuts.source {text : List Char} {pieces : List Piece} (cuts : Cuts text pieces) :
    pieces.flatMap Piece.source = text := by
  induction cuts with
  | plain | unclosed => simp [Piece.source]
  | reference _ _ _ inductionHypothesis => simp [Piece.source, inductionHypothesis]

/-! ## Every text can be cut -/

theorem opener_infix_cons {c : Char} {text : List Char} :
    opener <:+: c :: text ↔ (c = '$' ∧ ∃ rest, text = '{' :: rest) ∨ opener <:+: text := by
  rw [List.infix_cons_iff]
  apply or_congr_left
  rw [opener, List.cons_prefix_cons]
  constructor
  · rintro ⟨rfl, rest, rfl⟩
    exact ⟨rfl, rest, rfl⟩
  · rintro ⟨rfl, rest, rfl⟩
    exact ⟨rfl, rest, rfl⟩

/-- A character before a text that it opens no reference with is cut off with what follows it. -/
theorem Cuts.cons
    {c : Char} {text : List Char} {pieces : List Piece} (cuts : Cuts text pieces)
    (other : ∀ rest, c = '$' → text ≠ '{' :: rest) :
    ∃ pieces, Cuts (c :: text) pieces := by
  have plain {before after : List Char} (shape : text = before ++ after)
      (none : ¬ opener <:+: before) : ¬ opener <:+: c :: before := by
    rw [opener_infix_cons]
    rintro (⟨isDollar, rest, rfl⟩ | inside)
    · exact other (rest ++ after) isDollar shape
    · exact none inside
  cases cuts with
  | plain none => exact ⟨_, .plain (plain (List.append_nil text).symm none)⟩
  | @unclosed before rest none unclosed => exact ⟨_, .unclosed (plain rfl none) unclosed⟩
  | @reference before name rest pieces none closed later =>
      exact ⟨_, .reference (plain rfl none) closed later⟩

theorem forall_ne_brace {characters : List Char} :
    (∀ c ∈ characters, (c != '}') = true) ↔ '}' ∉ characters := by
  constructor
  · intro others member
    have other := others _ member
    simp at other
  · intro none c member
    rw [bne_iff_ne]
    rintro rfl
    exact none member

theorem unclosed_iff {rest : List Char} : rest.dropWhile (· != '}') = [] ↔ '}' ∉ rest :=
  List.dropWhile_eq_nil_iff.trans forall_ne_brace

theorem eq_of_closed
    {rest after : List Char} {last : Char} (closed : rest.dropWhile (· != '}') = last :: after) :
    rest = rest.takeWhile (· != '}') ++ '}' :: after := by
  have brace : last = '}' := by
    have stopped := head?_dropWhile (closed ▸ rfl : (rest.dropWhile (· != '}')).head? = some last)
    simpa using stopped
  rw [brace] at closed
  rw [← closed, List.takeWhile_append_dropWhile]

/-- Every text is cut into pieces by a pass from left to right. -/
theorem exists_cuts (text : List Char) : ∃ pieces, Cuts text pieces := by
  have nowhere : ¬ opener <:+: [] := by decide
  fun_induction substituteFrom Variables.empty [] text with
  | case1 _ rest unclosed => exact ⟨_, .unclosed nowhere (unclosed_iff.mp unclosed)⟩
  | case2 _ rest last after closed inductionHypothesis =>
      obtain ⟨pieces, cuts⟩ := inductionHypothesis
      have name : '}' ∉ rest.takeWhile (· != '}') := by
        rw [← forall_ne_brace]
        intro c member
        exact List.mem_takeWhile_imp (p := (· != '}')) member
      have whole := Cuts.reference nowhere name cuts
      rw [eq_of_closed closed]
      exact ⟨_, by simpa [opener] using whole⟩
  | case3 _ c rest other inductionHypothesis =>
      obtain ⟨pieces, cuts⟩ := inductionHypothesis
      exact cuts.cons other
  | case4 => exact ⟨_, .plain nowhere⟩

/-! ## What the pass puts out -/

section Pass

variable (bindings : Variables) (reversed : List Char)

/-- Characters that open no reference, also not with those after them, are put out as they are. -/
theorem substituteFrom_plain
    {before after : List Char} (none : ¬ opener <:+: before)
    (apart : before.getLast? = some '$' → after.head? ≠ some '{') :
    substituteFrom bindings reversed (before ++ after) =
      substituteFrom bindings (before.reverse ++ reversed) after := by
  induction before generalizing reversed with
  | nil => rfl
  | cons c before inductionHypothesis =>
      rw [opener_infix_cons, not_or] at none
      have later : before.getLast? = some '$' → after.head? ≠ some '{' := by
        intro last
        apply apart
        rw [List.getLast?_cons, last]
        rfl
      rw [List.cons_append, substituteFrom, inductionHypothesis _ none.2 later]
      · simp
      · intro rest isDollar same
        cases before with
        | nil =>
            rw [List.nil_append] at same
            exact apart (by simp [isDollar]) (by simp [same])
        | cons next before =>
            obtain ⟨rfl, _⟩ := List.cons.inj same
            exact none.1 ⟨isDollar, before, rfl⟩

theorem resolve_eq_filled (name : List Char) :
    bindings.resolve name = (Piece.reference name).filled bindings := by
  rw [Variables.resolve, Piece.filled]
  cases bindings.get? (String.ofList name) with
  | some value => rfl
  | none => simp [reference, Piece.source, opener]

theorem substituteFrom_reference
    {before name : List Char} (after : List Char) (none : ¬ opener <:+: before)
    (single : '}' ∉ name) :
    substituteFrom bindings reversed (before ++ (opener ++ name ++ ['}'] ++ after)) =
      substituteFrom bindings
        ((before ++ (Piece.reference name).filled bindings).reverse ++ reversed) after := by
  have inside : ∀ c ∈ name, (c != '}') = true := forall_ne_brace.mpr single
  have stops : ∀ c, ('}' :: after).head? = some c → (c != '}') = false := by simp
  have closed : (name ++ '}' :: after).dropWhile (· != '}') = '}' :: after :=
    dropWhile_run inside stops
  have shape : opener ++ name ++ ['}'] ++ after = '$' :: '{' :: (name ++ '}' :: after) := by
    simp [opener]
  rw [shape, substituteFrom_plain bindings reversed none (by simp),
    substituteFrom_closed bindings _ closed, takeWhile_run inside stops, resolve_eq_filled]
  simp [List.reverseAux_eq]

end Pass

variable {text : List Char} {pieces : List Piece}

/-- The replaced text consists of the filled pieces. -/
theorem Cuts.substituteFrom_eq
    (cuts : Cuts text pieces) (bindings : Variables) (reversed : List Char) :
    substituteFrom bindings reversed text =
      reversed.reverse ++ pieces.flatMap (Piece.filled bindings) := by
  induction cuts generalizing reversed with
  | @plain text none =>
      have output :
          substituteFrom bindings reversed (text ++ []) =
            substituteFrom bindings (text.reverse ++ reversed) [] :=
        substituteFrom_plain bindings reversed none (by simp)
      rw [List.append_nil, substituteFrom] at output
      simp [output, Piece.filled, Piece.source]
  | @unclosed before rest none unclosed =>
      have output :=
        substituteFrom_unclosed bindings (before.reverse ++ reversed) (unclosed_iff.mpr unclosed)
      rw [substituteFrom_plain bindings reversed none (by simp [opener])]
      rw [opener, List.cons_append, List.cons_append, List.nil_append, output]
      simp [Piece.filled, Piece.source, opener]
  | @reference before name rest pieces none single _ inductionHypothesis =>
      rw [substituteFrom_reference bindings reversed rest none single, inductionHypothesis]
      simp [Piece.filled, Piece.source]

/-- If all references in a text are closed, the pass over a longer text goes on after it. -/
theorem Cuts.substituteFrom_append
    (cuts : Cuts text pieces) (bindings : Variables) (reversed : List Char) {more : List Char}
    (closed : ∀ rest, .unclosed rest ∉ pieces)
    (apart : text.getLast? = some '$' → more.head? ≠ some '{') :
    substituteFrom bindings reversed (text ++ more) =
      substituteFrom bindings ((pieces.flatMap (Piece.filled bindings)).reverse ++ reversed) more := by
  induction cuts generalizing reversed with
  | @plain text none =>
      rw [substituteFrom_plain bindings reversed none apart]
      simp [Piece.filled, Piece.source]
  | @unclosed before rest _ _ => exact absurd (by simp) (closed rest)
  | @reference before name rest pieces none single _ inductionHypothesis =>
      have later : rest.getLast? = some '$' → more.head? ≠ some '{' := by
        intro last
        apply apart
        simp [List.getLast?_append, List.getLast?_cons, last]
      have shape : before ++ (opener ++ name ++ ['}'] ++ rest) ++ more =
          before ++ (opener ++ name ++ ['}'] ++ (rest ++ more)) := by
        simp
      rw [shape, substituteFrom_reference bindings reversed _ none single,
        inductionHypothesis _ (fun rest member => closed rest (by simp [member])) later]
      simp [Piece.filled, Piece.source]

theorem Cuts.filled_eq_source
    (cuts : Cuts text pieces) {bindings : Variables}
    (unbound : ∀ name, .reference name ∈ pieces → bindings.get? (String.ofList name) = none) :
    pieces.flatMap (Piece.filled bindings) = text := by
  rw [← cuts.source]
  apply List.flatMap_congr
  intro piece member
  cases piece with
  | plain | unclosed => rfl
  | reference name => rw [Piece.filled, unbound name member]

/-! ## Whole texts -/

/-- Every text is cut into pieces in one pass, whatever the variables are.  The replaced text consists of
these pieces, with the texts of the bound variables in place of the references to them; it is the text
itself if none of them is bound; and it goes on with any other replaced text, if all references are closed
and none opens across the border. -/
theorem references_replaced_in_one_pass (text : String) :
    (∃ pieces, Cuts text.toList pieces) ∧
    ∀ pieces,
      Cuts text.toList pieces →
      (∀ bindings,
        substitute text bindings = String.ofList (pieces.flatMap (Piece.filled bindings))) ∧
      (∀ bindings,
        (∀ name, .reference name ∈ pieces → bindings.get? (String.ofList name) = none) →
        substitute text bindings = text) ∧
      ((∀ rest, .unclosed rest ∉ pieces) →
        ∀ more : String,
          ¬ (text.toList.getLast? = some '$' ∧ more.toList.head? = some '{') →
          ∀ bindings,
            substitute (text ++ more) bindings =
              substitute text bindings ++ substitute more bindings) := by
  refine ⟨exists_cuts text.toList, ?_⟩
  intro pieces cuts
  have output (bindings : Variables) :
      substitute text bindings = String.ofList (pieces.flatMap (Piece.filled bindings)) := by
    rw [substitute, cuts.substituteFrom_eq]
    rfl
  refine ⟨output, ?_, ?_⟩
  · intro bindings unbound
    rw [output, cuts.filled_eq_source unbound, String.ofList_toList]
  · intro closed more apart bindings
    obtain ⟨others, otherCuts⟩ := exists_cuts more.toList
    have border : text.toList.getLast? = some '$' → more.toList.head? ≠ some '{' :=
      fun last first => apart ⟨last, first⟩
    rw [output, substitute, String.toList_append,
      cuts.substituteFrom_append bindings [] closed border, substitute,
      otherCuts.substituteFrom_eq, otherCuts.substituteFrom_eq]
    simp

/-- The text `${x}${a${b}}`. -/
def nestedReferences : String :=
  "$\x7bx\x7d$\x7ba$\x7bb\x7d\x7d"

/-- The value of `x` is put in with its own reference, and a reference that opens inside another one is
part of its name. -/
theorem references_replaced_in_one_pass_nested :
    Cuts nestedReferences.toList
        [.plain [], .reference ['x'], .plain [], .reference ['a', '$', '{', 'b'], .plain ['}']] ∧
      substitute nestedReferences (.ofList [("b", "1"), ("x", "$\x7bb\x7d")]) =
        "$\x7bb\x7d$\x7ba$\x7bb\x7d\x7d" ∧
      substitute nestedReferences (.ofList [("b", "1")]) = nestedReferences ∧
      substitute (nestedReferences ++ "\x7b$\x7bx") (.ofList [("x", "$")]) =
        substitute nestedReferences (.ofList [("x", "$")]) ++
          substitute "\x7b$\x7bx" (.ofList [("x", "$")]) := by
  have cuts : Cuts nestedReferences.toList
      [.plain [], .reference ['x'], .plain [], .reference ['a', '$', '{', 'b'], .plain ['}']] :=
    @Cuts.reference [] ['x'] _ _ (by decide) (by decide)
      (@Cuts.reference [] ['a', '$', '{', 'b'] _ _ (by decide) (by decide)
        (@Cuts.plain ['}'] (by decide)))
  obtain ⟨filled, unbound, joined⟩ := (references_replaced_in_one_pass _).2 _ cuts
  refine ⟨cuts, (filled _).trans (by decide), unbound _ ?_, joined ?_ _ (by decide) _⟩
  · intro name member
    simp only [List.mem_cons, Piece.reference.injEq, reduceCtorEq, List.not_mem_nil, false_or,
      or_false] at member
    rcases member with rfl | rfl <;> rfl
  · simp

end ScriptDebugger
