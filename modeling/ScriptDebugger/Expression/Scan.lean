import ScriptDebugger.Expression.Error
import ScriptDebugger.Text.Parts

/-!
# Scanning an expression

The tokens of a text from left to right. A number is the longest run of ASCII digits, an identifier
the longest run of letters, numerals and underscores; blanks only separate.
-/

namespace ScriptDebugger

/-- The number of bytes that write the characters. -/
def byteLength (characters : List Char) : Nat :=
  characters.foldl (fun length c => length + c.utf8Size) 0

/-! ## One token -/

/-- The number that a run of digits writes. -/
def Token.ofDigits (digits : List Char) : Except EvalError Token :=
  match Text.readDigits Text.greatestInteger .tooLarge 0 digits with
  | .ok value => .ok (.number value)
  | .error _ => .error (.invalidNumber (String.ofList digits))

/-- A token, the characters that write it and the characters after them. -/
structure Token.Reading where
  token : Token
  characters : List Char
  rest : List Char

/-- Reads the token at the start of a text that begins with `first`, which is no blank. -/
def Token.read (offset : Nat) (first : Char) (rest : List Char) :
    Except EvalError Token.Reading :=
  match Token.ofCharacter? first with
  | some token => .ok ⟨token, [first], rest⟩
  | none =>
    if first.isDigit then
      match Token.ofDigits (first :: rest.takeWhile Char.isDigit) with
      | .ok token =>
        .ok ⟨token, first :: rest.takeWhile Char.isDigit, rest.dropWhile Char.isDigit⟩
      | .error error => .error error
    else if Text.startsIdentifier first then
      .ok ⟨.identifier (String.ofList (first :: rest.takeWhile Text.continuesIdentifier)),
        first :: rest.takeWhile Text.continuesIdentifier,
        rest.dropWhile Text.continuesIdentifier⟩
    else .error (.unexpectedCharacter first offset)

/-- Reading a token takes its characters, at least one, off the text and changes nothing else. -/
theorem Token.read_eq_append
    {offset : Nat} {first : Char} {rest : List Char} {reading : Token.Reading}
    (success : Token.read offset first rest = .ok reading) :
    reading.characters ++ reading.rest = first :: rest ∧ reading.characters ≠ [] := by
  unfold Token.read at success
  grind [List.takeWhile_append_dropWhile]

theorem Token.length_rest_le
    {offset : Nat} {first : Char} {rest : List Char} {reading : Token.Reading}
    (success : Token.read offset first rest = .ok reading) :
    reading.rest.length < (first :: rest).length := by
  have parts := Token.read_eq_append success
  have positive := List.length_pos_iff.mpr parts.2
  have total := congrArg List.length parts.1
  rw [List.length_append] at total
  omega

/-! ## All tokens -/

/-- Scans characters that start at byte `offset`, after the lexemes `found`. -/
def scanFrom (offset : Nat) (found : Array Lexeme) (characters : List Char) :
    Except EvalError (Array Lexeme) :=
  match characters with
  | [] => .ok found
  | first :: rest =>
    if Text.isBlank first then scanFrom (offset + first.utf8Size) found rest
    else
      match _success : Token.read offset first rest with
      | .error error => .error error
      | .ok reading =>
        scanFrom (offset + byteLength reading.characters)
          (found.push ⟨offset, reading.token⟩) reading.rest
termination_by characters.length
decreasing_by
  · simp
  · exact Token.length_rest_le _success

/-- The lexemes of a text. -/
def scan (text : String) : Except EvalError (List Lexeme) :=
  (scanFrom 0 #[] text.toList).map Array.toList

end ScriptDebugger
