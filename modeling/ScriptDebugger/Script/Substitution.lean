import ScriptDebugger.Expression.Evaluate

/-!
# References and coercion

A text refers to a variable by its name between `${` and `}`. One pass from left to right replaces the
references to bound variables; the texts put in are not looked at again. What an assignment stores is
coerced after that.
-/

namespace ScriptDebugger

/-- The text of a reference to `name`. -/
def reference (name : List Char) : List Char :=
  '$' :: '{' :: (name ++ ['}'])

/-- What a reference to `name` stands for: the variable's text, or the reference itself if there is
no such variable. -/
def Variables.resolve (bindings : Variables) (name : List Char) : List Char :=
  match bindings.get? (String.ofList name) with
  | some value => value.toList
  | none => reference name

/-- Replaces the references in the characters, after the result `reversed` of those before them. A
reference that nothing closes ends the pass. -/
def substituteFrom (bindings : Variables) (reversed : List Char) (characters : List Char) :
    List Char :=
  match characters with
  | '$' :: '{' :: rest =>
    match _closed : rest.dropWhile (· != '}') with
    | [] => reversed.reverseAux characters
    | _ :: after =>
      substituteFrom bindings
        ((bindings.resolve (rest.takeWhile (· != '}'))).reverseAux reversed) after
  | c :: rest => substituteFrom bindings (c :: reversed) rest
  | [] => reversed.reverse
termination_by characters.length
decreasing_by
  · have shorter := (List.dropWhile_sublist (· != '}') (l := rest)).length_le
    rw [_closed] at shorter
    simp only [List.length_cons] at shorter ⊢
    omega
  · simp

/-- The text with its references to bound variables replaced. -/
def substitute (text : String) (bindings : Variables) : String :=
  String.ofList (substituteFrom bindings [] text.toList)

/-- The decimal text of a value's integer if the value, with its references replaced, is an integer
expression, and its text without blanks at the ends otherwise. -/
def coerce (value : String) (bindings : Variables) : String :=
  let substituted := substitute value bindings
  match evaluate substituted bindings with
  | .ok integer => Text.decimal integer
  | .error _ => Text.trim substituted

end ScriptDebugger
