import Mathlib.Data.String.Basic
import ScriptDebugger.Proofs.Expression.Exactness
import ScriptDebugger.Proofs.Script.Assignment

/-!
# Words of tokens

Which characters write a token, and that reading takes such a word off a text, as long as it can be.
-/

namespace ScriptDebugger

open Text

/-! ## Bytes -/

@[simp]
theorem byteLength_nil : byteLength [] = 0 :=
  rfl

theorem byteLength_eq (characters : List Char) :
    byteLength characters = (String.ofList characters).utf8ByteSize := by
  have all (length : Nat) :
      characters.foldl (fun length c => length + c.utf8Size) length =
        length + String.utf8Len characters := by
    induction characters generalizing length with
    | nil => rfl
    | cons c rest inductionHypothesis =>
        rw [List.foldl_cons, inductionHypothesis, String.utf8Len_cons]
        omega
  rw [byteLength, all, String.utf8ByteSize_ofList, Nat.zero_add]

theorem byteLength_toList (text : String) : byteLength text.toList = text.utf8ByteSize := by
  rw [byteLength_eq, String.ofList_toList]

@[simp]
theorem byteLength_append (first second : List Char) :
    byteLength (first ++ second) = byteLength first + byteLength second := by
  rw [byteLength_eq, byteLength_eq, byteLength_eq, String.ofList_append, String.utf8ByteSize_append]

@[simp]
theorem byteLength_cons (c : Char) (rest : List Char) :
    byteLength (c :: rest) = c.utf8Size + byteLength rest := by
  rw [← List.singleton_append, byteLength_append]
  simp [byteLength]

theorem byteLength_pos {characters : List Char} (nonempty : characters ≠ []) :
    0 < byteLength characters := by
  cases characters with
  | nil => exact absurd rfl nonempty
  | cons c rest =>
      have positive := c.utf8Size_pos
      rw [byteLength_cons]
      omega

/-! ## Characters -/

theorem digit_codes : ∀ code ∈ List.range' 48 10, alphabeticRanges.covers code = false := by
  decide +kernel

theorem isDigit_of_startsIdentifier {c : Char} (starts : startsIdentifier c = true) :
    c.isDigit = false := by
  by_contra digit
  have bounds : 48 ≤ c.toNat ∧ c.toNat ≤ 57 := by
    simp only [Char.isDigit, Bool.and_eq_false_iff, decide_eq_false_iff_not, ge_iff_le,
      UInt32.le_iff_toNat_le, not_or, not_not] at digit
    exact digit
  have member : c.toNat ∈ List.range' 48 10 := by
    rw [List.mem_range'_1]
    omega
  have underscore : c ≠ '_' := by
    rintro rfl
    exact digit rfl
  have none := digit_codes c.toNat member
  simp [startsIdentifier, isAlphabetic, none, underscore] at starts

/-! ## Words -/

namespace Token

/-- `token.SpelledBy characters` means that the characters write the token.  A number can be written with
leading zeros. -/
def SpelledBy : Token → List Char → Prop
  | .number value, characters => exactMagnitude? characters = some value ∧ value < 2 ^ 63
  | .identifier name, characters => name.toList = characters ∧ isIdentifier name = true
  | token, characters => token.text.toList = characters

/-- Whether a character right after a token would be a part of it. -/
def continues : Token → Char → Bool
  | .number _, c => c.isDigit
  | .identifier _, c => continuesIdentifier c
  | _, _ => false

/-- The characters after a token do not go on with it. -/
def EndsBefore (token : Token) (characters : List Char) : Prop :=
  ∀ c, characters.head? = some c → token.continues c = false

theorem endsBefore_nil (token : Token) : token.EndsBefore [] := by
  intro c first
  cases first

theorem spelledBy_number {value : Nat} {characters : List Char} :
    (Token.number value).SpelledBy characters ↔
      characters ≠ [] ∧ (∀ c ∈ characters, c.isDigit = true) ∧ digitsValue 0 characters = value ∧
        value < 2 ^ 63 := by
  rw [SpelledBy, exactMagnitude?_eq_some, and_assoc, and_assoc]

theorem ofDigits_eq_ok {digits : List Char} {token : Token} (nonempty : digits ≠ []) :
    Token.ofDigits digits = .ok token ↔ ∃ value, token = .number value ∧ token.SpelledBy digits := by
  have limit (value : Nat) : value ≤ greatestInteger ↔ value < 2 ^ 63 := by
    rw [greatestInteger]
    omega
  constructor
  · intro success
    unfold Token.ofDigits at success
    split at success
    case h_1 value read =>
      obtain rfl := Except.ok.inj success
      obtain ⟨all, same, within⟩ := (readDigits_eq_ok (Nat.zero_le _)).mp read
      exact ⟨value, rfl, spelledBy_number.mpr ⟨nonempty, all, same, (limit value).mp within⟩⟩
    case h_2 => cases success
  · rintro ⟨value, rfl, spelled⟩
    obtain ⟨_, all, same, within⟩ := spelledBy_number.mp spelled
    have read : readDigits greatestInteger .tooLarge 0 digits = .ok value :=
      (readDigits_eq_ok (Nat.zero_le _)).mpr ⟨all, same, (limit value).mpr within⟩
    rw [Token.ofDigits, read]

theorem ofDigits_eq_error
    {digits : List Char} {error : EvalError} (all : ∀ c ∈ digits, c.isDigit = true)
    (failure : Token.ofDigits digits = .error error) :
    error = .invalidNumber (String.ofList digits) ∧ 2 ^ 63 ≤ digitsValue 0 digits := by
  unfold Token.ofDigits at failure
  split at failure
  case h_1 => cases failure
  case h_2 excess read =>
    refine ⟨(Except.error.inj failure).symm, ?_⟩
    by_contra small
    have within : digitsValue 0 digits ≤ greatestInteger := by
      rw [greatestInteger]
      omega
    rw [(readDigits_eq_ok (Nat.zero_le _)).mpr ⟨all, rfl, within⟩] at read
    cases read

theorem spelledBy_of_ofCharacter?
    {c : Char} {token : Token} (single : Token.ofCharacter? c = some token) :
    token.SpelledBy [c] ∧ ∀ next, token.continues next = false := by
  unfold Token.ofCharacter? at single
  split at single
  case h_8 => cases single
  all_goals
    obtain rfl := Option.some.inj single
    exact ⟨rfl, fun _ => rfl⟩

theorem ofCharacter?_of_isDigit {c : Char} (digit : c.isDigit = true) :
    Token.ofCharacter? c = none := by
  unfold Token.ofCharacter?
  split
  case h_8 => rfl
  all_goals
    revert digit
    decide

theorem ofCharacter?_of_startsIdentifier {c : Char} (starts : startsIdentifier c = true) :
    Token.ofCharacter? c = none := by
  unfold Token.ofCharacter?
  split
  case h_8 => rfl
  all_goals
    revert starts
    decide +kernel

/-- A word is not empty and does not start with a blank. -/
theorem SpelledBy.cons {token : Token} {characters : List Char} (spelled : token.SpelledBy characters) :
    ∃ first rest, characters = first :: rest ∧ isBlank first = false := by
  cases token with
  | number value =>
      obtain ⟨nonempty, digits, _⟩ := spelledBy_number.mp spelled
      obtain ⟨first, rest, rfl⟩ := List.exists_cons_of_ne_nil nonempty
      refine ⟨first, rest, rfl, ?_⟩
      by_contra blank
      have other := isDigit_of_isBlank (Bool.eq_true_of_not_eq_false blank)
      rw [digits first List.mem_cons_self] at other
      cases other
  | identifier name =>
      obtain ⟨rfl, valid⟩ := spelled
      obtain ⟨first, rest, shape, _, continues⟩ := isIdentifierChars_cons valid
      refine ⟨first, rest, shape, isBlank_of_continuesIdentifier (continues first ?_)⟩
      rw [shape]
      exact List.mem_cons_self
  | operator sign =>
      obtain rfl := spelled
      refine ⟨sign.character, [], String.toList_singleton _, ?_⟩
      cases sign <;> decide
  | opening =>
      obtain rfl := spelled
      exact ⟨'(', [], rfl, by decide⟩
  | closing =>
      obtain rfl := spelled
      exact ⟨')', [], rfl, by decide⟩

end Token

/-- The token is read off a word that is as long as it can be. -/
theorem Token.read_of_spelledBy
    {token : Token} {first : Char} {word after : List Char} (offset : Nat)
    (spelled : token.SpelledBy (first :: word)) (ends : token.EndsBefore after) :
    Token.read offset first (word ++ after) = .ok ⟨token, first :: word, after⟩ := by
  unfold Token.read
  cases token with
  | number value =>
      obtain ⟨nonempty, digits, _⟩ := Token.spelledBy_number.mp spelled
      have start : first.isDigit = true := digits first List.mem_cons_self
      have later : ∀ c ∈ word, c.isDigit = true :=
        fun c member => digits c (List.mem_cons_of_mem _ member)
      simp only [Token.ofCharacter?_of_isDigit start, start, if_true, takeWhile_run later ends,
        dropWhile_run later ends, (Token.ofDigits_eq_ok nonempty).mpr ⟨value, rfl, spelled⟩]
  | identifier name =>
      obtain ⟨written, valid⟩ := spelled
      rw [isIdentifier, written] at valid
      have start : startsIdentifier first = true := (Bool.and_eq_true_iff.mp valid).1
      have later : ∀ c ∈ word, continuesIdentifier c = true :=
        List.all_eq_true.mp (Bool.and_eq_true_iff.mp valid).2
      have same : String.ofList (first :: word) = name := by
        rw [← written, String.ofList_toList]
      simp only [Token.ofCharacter?_of_startsIdentifier start, isDigit_of_startsIdentifier start,
        Bool.false_eq_true, if_false, start, if_true, takeWhile_run later ends,
        dropWhile_run later ends, same]
  | operator sign =>
      obtain ⟨rfl, rfl⟩ := List.cons.inj ((String.toList_singleton sign.character).symm.trans spelled)
      cases sign <;> rfl
  | opening =>
      obtain ⟨rfl, rfl⟩ := List.cons.inj (spelled : ['('] = first :: word)
      rfl
  | closing =>
      obtain ⟨rfl, rfl⟩ := List.cons.inj (spelled : [')'] = first :: word)
      rfl

/-- What is read at the start of a text is a word of the token, as long as it can be. -/
theorem Token.spelledBy_of_read
    {offset : Nat} {first : Char} {rest : List Char} {reading : Token.Reading}
    (success : Token.read offset first rest = .ok reading) :
    reading.token.SpelledBy reading.characters ∧ reading.token.EndsBefore reading.rest := by
  unfold Token.read at success
  split at success
  case h_1 token single =>
    obtain rfl := Except.ok.inj success
    obtain ⟨spelled, ends⟩ := Token.spelledBy_of_ofCharacter? single
    exact ⟨spelled, fun c _ => ends c⟩
  case h_2 =>
    by_cases digit : first.isDigit = true
    · rw [if_pos digit] at success
      split at success
      case h_2 => cases success
      case h_1 token digits =>
        obtain rfl := Except.ok.inj success
        obtain ⟨value, rfl, spelled⟩ := (Token.ofDigits_eq_ok (List.cons_ne_nil _ _)).mp digits
        exact ⟨spelled, fun c next => head?_dropWhile next⟩
    · rw [if_neg digit] at success
      split at success
      case isFalse => cases success
      case isTrue starts =>
        obtain rfl := Except.ok.inj success
        refine ⟨⟨String.toList_ofList, ?_⟩, fun c next => head?_dropWhile next⟩
        simp [isIdentifier, isIdentifierChars, starts]

/-- Reading fails at a character that starts no word, or at a number that is too large. -/
theorem Token.read_eq_error
    {offset : Nat} {first : Char} {rest : List Char} {error : EvalError}
    (failure : Token.read offset first rest = .error error) :
    ((∀ token word, Token.SpelledBy token (first :: word) → False) ∧
      error = .unexpectedCharacter first offset) ∨
    ∃ digits after, first :: rest = digits ++ after ∧ digits ≠ [] ∧
      (∀ c ∈ digits, c.isDigit = true) ∧ (∀ c, after.head? = some c → c.isDigit = false) ∧
        2 ^ 63 ≤ digitsValue 0 digits ∧ error = .invalidNumber (String.ofList digits) := by
  by_cases digit : first.isDigit = true
  · right
    have all : ∀ c ∈ first :: rest.takeWhile Char.isDigit, c.isDigit = true := by
      rw [List.forall_mem_cons]
      exact ⟨digit, fun c member => List.mem_takeWhile_imp member⟩
    simp only [Token.read, Token.ofCharacter?_of_isDigit digit, digit, if_true] at failure
    cases read : Token.ofDigits (first :: rest.takeWhile Char.isDigit) with
    | ok token =>
        rw [read] at failure
        cases failure
    | error other =>
        rw [read] at failure
        obtain rfl := Except.error.inj failure
        obtain ⟨same, large⟩ := Token.ofDigits_eq_error all read
        refine ⟨first :: rest.takeWhile Char.isDigit, rest.dropWhile Char.isDigit, ?_,
          List.cons_ne_nil _ _, all, ?_, large, same⟩
        · rw [List.cons_append, List.takeWhile_append_dropWhile]
        · exact fun c next => head?_dropWhile next
  · left
    simp only [Token.read, digit, Bool.false_eq_true, if_false] at failure
    split at failure
    case h_1 => cases failure
    case h_2 single =>
      split at failure
      case isTrue => cases failure
      case isFalse starts =>
        refine ⟨?_, (Except.error.inj failure).symm⟩
        intro token word spelled
        have success := Token.read_of_spelledBy offset spelled token.endsBefore_nil
        simp [Token.read, single, digit, starts] at success

end ScriptDebugger
