import ScriptDebugger.Jsonc.Value
import ScriptDebugger.Text.Parts

/-!
# Tokens of JSON with comments

Texts stand between double or single quotes. Comments run from `//` to the end of the line or from
`/*` to the next `*/`, and count as blanks. Words other than `true`, `false` and `null` can only name
members.
-/

namespace ScriptDebugger.Jsonc

/-- A token. -/
inductive Token where
  | openBrace
  | closeBrace
  | openBracket
  | closeBracket
  | comma
  | colon
  | text (content : String)
  | number (literal : Literal)
  | bool (value : Bool)
  | null
  | word (name : String)

/-! ## Texts -/

/-- Four hexadecimal digits and what follows them. -/
def readCodeUnit : List Char → Option (Nat × List Char)
  | a :: b :: c :: d :: rest =>
    if [a, b, c, d].all isHexDigit then some (ofDigits 16 hexValue [a, b, c, d], rest) else none
  | _ => none

/-- Reads what follows `\u`: a code unit, or two that form a surrogate pair. -/
def readUnicode (characters : List Char) : Option (Char × List Char) :=
  match readCodeUnit characters with
  | none => none
  | some (high, rest) =>
    if 0xd800 ≤ high ∧ high < 0xdc00 then
      match rest with
      | '\\' :: 'u' :: second =>
        match readCodeUnit second with
        | none => none
        | some (low, after) =>
          if 0xdc00 ≤ low ∧ low < 0xe000 then
            some (Char.ofNat (0x10000 + (high - 0xd800) * 0x400 + (low - 0xdc00)), after)
          else none
      | _ => none
    else if 0xdc00 ≤ high ∧ high < 0xe000 then none
    else some (Char.ofNat high, rest)

/-- The character that a backslash and another character write between two of `mark`. -/
def shortEscape (mark c : Char) : Option Char :=
  if c = mark then some mark
  else
    match c with
    | '\\' => some '\\'
    | '/' => some '/'
    | 'b' => some '\x08'
    | 'f' => some '\x0c'
    | 'n' => some '\n'
    | 'r' => some '\r'
    | 't' => some '\t'
    | _ => none

/-- Reads what follows a backslash. -/
def readEscape (mark : Char) : List Char → Option (Char × List Char)
  | [] => none
  | 'u' :: rest => readUnicode rest
  | c :: rest => (shortEscape mark c).map fun meant => (meant, rest)

theorem length_readCodeUnit
    {characters after : List Char} {value : Nat}
    (success : readCodeUnit characters = some (value, after)) :
    after.length < characters.length := by
  unfold readCodeUnit at success
  grind

theorem length_readEscape
    {mark c : Char} {characters after : List Char}
    (success : readEscape mark characters = some (c, after)) :
    after.length < characters.length := by
  unfold readEscape readUnicode at success
  grind [→ length_readCodeUnit, Option.map_eq_some_iff]

/-- Reads a text up to the `mark` that ends it, after the characters `reversed`. -/
def readText (mark : Char) (reversed characters : List Char) :
    Option (List Char × List Char) :=
  match characters with
  | [] => none
  | '\\' :: rest =>
    match _success : readEscape mark rest with
    | none => none
    | some (c, after) => readText mark (c :: reversed) after
  | c :: rest =>
    if c = mark then some (reversed.reverse, rest) else readText mark (c :: reversed) rest
termination_by characters.length
decreasing_by
  · have shorter := length_readEscape _success
    simp only [List.length_cons]
    omega
  · simp

theorem length_readText
    {mark : Char} {reversed characters content after : List Char}
    (success : readText mark reversed characters = some (content, after)) :
    after.length < characters.length := by
  fun_induction readText mark reversed characters <;> grind [→ length_readEscape]

/-! ## Words and comments -/

/-- Whether a character can stand in a word. -/
def isWordCharacter (c : Char) : Bool :=
  Text.isAlphanumeric c || c == '-' || c == '_'

/-- What follows a keyword at the start of a text, unless a letter or numeral follows at once. -/
def afterKeyword (keyword characters : List Char) : Option (List Char) :=
  if keyword.isPrefixOf characters then
    match characters.drop keyword.length with
    | [] => some []
    | c :: rest => if Text.isAlphanumeric c then none else some (c :: rest)
  else none

/-- Reads a word, which a blank, a colon or the end of the text has to end. -/
def readWord (characters : List Char) : Option (Token × List Char) :=
  let word := characters.takeWhile isWordCharacter
  let after := characters.dropWhile isWordCharacter
  let token := Token.word (String.ofList word)
  if word.isEmpty then none
  else
    match after with
    | [] => some (token, [])
    | c :: rest => if Text.isBlank c || c == ':' then some (token, c :: rest) else none

/-- Reads a keyword or another word. -/
def readKeywordOrWord (characters : List Char) : Option (Token × List Char) :=
  match afterKeyword "true".toList characters with
  | some after => some (.bool true, after)
  | none =>
    match afterKeyword "false".toList characters with
    | some after => some (.bool false, after)
    | none =>
      match afterKeyword "null".toList characters with
      | some after => some (.null, after)
      | none => readWord characters

/-- What follows the end of a block comment. -/
def afterBlockComment : List Char → Option (List Char)
  | [] => none
  | '*' :: '/' :: rest => some rest
  | _ :: rest => afterBlockComment rest

/-! ## All tokens -/

/-- Reads the token or the comment at the start of a text, which does not start with a blank. -/
def readPiece : List Char → Option (Option Token × List Char)
  | [] => none
  | '{' :: rest => some (some .openBrace, rest)
  | '}' :: rest => some (some .closeBrace, rest)
  | '[' :: rest => some (some .openBracket, rest)
  | ']' :: rest => some (some .closeBracket, rest)
  | ',' :: rest => some (some .comma, rest)
  | ':' :: rest => some (some .colon, rest)
  | '/' :: '/' :: rest => some (none, rest.dropWhile (· != '\n'))
  | '/' :: '*' :: rest => (afterBlockComment rest).map fun after => (none, after)
  | c :: rest =>
    if c = '\x22' ∨ c = '\x27' then
      (readText c [] rest).map fun (content, after) =>
        (some (.text (String.ofList content)), after)
    else if c.isDigit ∨ c = '+' ∨ c = '-' then
      (readNumber (c :: rest)).map fun (literal, after) => (some (.number literal), after)
    else (readKeywordOrWord (c :: rest)).map fun (token, after) => (some token, after)

theorem length_afterKeyword
    {keyword characters after : List Char}
    (nonempty : keyword ≠ [])
    (success : afterKeyword keyword characters = some after) :
    after.length < characters.length := by
  unfold afterKeyword at success
  split at success
  · next isStart =>
    have fits := (List.isPrefixOf_iff_prefix.mp isStart).length_le
    have positive := List.length_pos_iff.mpr nonempty
    have rest : after = characters.drop keyword.length := by
      split at success
      · grind
      · split at success <;> grind
    rw [rest, List.length_drop]
    omega
  · cases success

theorem length_readWord
    {characters after : List Char} {token : Token}
    (success : readWord characters = some (token, after)) :
    after.length < characters.length := by
  have whole : characters.takeWhile isWordCharacter ++ characters.dropWhile isWordCharacter =
      characters := List.takeWhile_append_dropWhile
  have lengths := congrArg List.length whole
  simp only [List.length_append] at lengths
  unfold readWord at success
  simp only at success
  split at success
  · cases success
  · next nonempty =>
    have positive : 0 < (characters.takeWhile isWordCharacter).length := by
      refine List.length_pos_iff.mpr fun empty => nonempty ?_
      rw [empty]
      rfl
    have rest : after = characters.dropWhile isWordCharacter := by
      split at success
      · grind
      · split at success <;> grind
    rw [rest]
    omega

theorem length_readKeywordOrWord
    {characters after : List Char} {token : Token}
    (success : readKeywordOrWord characters = some (token, after)) :
    after.length < characters.length := by
  unfold readKeywordOrWord at success
  split at success
  · next found =>
    cases success
    exact length_afterKeyword (by decide) found
  · split at success
    · next found =>
      cases success
      exact length_afterKeyword (by decide) found
    · split at success
      · next found =>
        cases success
        exact length_afterKeyword (by decide) found
      · exact length_readWord success

theorem length_afterBlockComment
    {characters after : List Char}
    (success : afterBlockComment characters = some after) :
    after.length < characters.length := by
  fun_induction afterBlockComment characters <;> grind

theorem length_readNumber
    {characters after : List Char} {literal : Literal}
    (success : readNumber characters = some (literal, after)) :
    after.length < characters.length := by
  obtain ⟨equal, nonempty⟩ := readNumber_eq_append success
  have positive := List.length_pos_iff.mpr nonempty
  rw [equal, List.length_append]
  omega

theorem length_readPiece
    {characters after : List Char} {token : Option Token}
    (success : readPiece characters = some (token, after)) :
    after.length < characters.length := by
  unfold readPiece at success
  split at success
  case h_1 => cases success
  case h_8 =>
    next rest =>
    cases success
    have shorter := (List.dropWhile_sublist (l := rest) (· != '\n')).length_le
    simp only [List.length_cons]
    omega
  case h_9 =>
    simp only [Option.map_eq_some_iff] at success
    obtain ⟨rest, found, equal⟩ := success
    cases equal
    have shorter := length_afterBlockComment found
    simp only [List.length_cons]
    omega
  case h_10 =>
    split at success
    · simp only [Option.map_eq_some_iff] at success
      obtain ⟨⟨content, rest⟩, found, equal⟩ := success
      cases equal
      have shorter := length_readText found
      simp only [List.length_cons]
      omega
    · split at success
      · simp only [Option.map_eq_some_iff] at success
        obtain ⟨⟨literal, rest⟩, found, equal⟩ := success
        cases equal
        exact length_readNumber found
      · simp only [Option.map_eq_some_iff] at success
        obtain ⟨⟨token, rest⟩, found, equal⟩ := success
        cases equal
        exact length_readKeywordOrWord found
  all_goals
    cases success
    simp

/-- The tokens of a text, after those of `reversed`; nothing if some part of it is no token. -/
def tokensFrom (reversed : List Token) (characters : List Char) : Option (List Token) :=
  match characters with
  | [] => some reversed.reverse
  | c :: rest =>
    if Text.isBlank c then tokensFrom reversed rest
    else
      match _success : readPiece (c :: rest) with
      | none => none
      | some (none, after) => tokensFrom reversed after
      | some (some token, after) => tokensFrom (token :: reversed) after
termination_by characters.length
decreasing_by
  · simp
  · exact length_readPiece _success
  · exact length_readPiece _success

/-- The tokens of a text; nothing if some part of it is no token. -/
def tokens (text : String) : Option (List Token) :=
  tokensFrom [] text.toList

end ScriptDebugger.Jsonc
