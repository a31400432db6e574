import ScriptDebugger.Text.Integer

/-!
# Values of JSON with comments

The values that a text can write, and how it writes their numbers. A number has an optional sign. It is hexadecimal after `0x`; otherwise it is decimal, with an optional
fraction and exponent. A number ends where this grammar ends, and `readNumber_eq_append` says that its
parts are what was read.
-/

namespace ScriptDebugger.Jsonc

/-- A value of a JSON text. A number that is no bounded integer is kept as it is written. -/
inductive Value where
  | null
  | bool (value : Bool)
  | integer (value : Int)
  | real (literal : String)
  | text (content : String)
  | array (elements : List Value)
  /-- Members in the order of the text; of several with one name the last counts. -/
  | object (members : List (String × Value))

/-- The member of an object that has a name. -/
def Value.member? (name : String) : Value → Option Value
  | .object members => members.reverse.lookup name
  | _ => none

/-- The text of a value that is one. -/
def Value.text? : Value → Option String
  | .text content => some content
  | _ => none

/-! ## Digits and numbers -/

/-- Whether a character is a hexadecimal digit. -/
def isHexDigit (c : Char) : Bool :=
  c.isDigit || ('a' ≤ c && c ≤ 'f') || ('A' ≤ c && c ≤ 'F')

/-- The value of a hexadecimal digit. -/
def hexValue (c : Char) : Nat :=
  if c.isDigit then c.toNat - 48
  else if 'a' ≤ c then c.toNat - 87
  else c.toNat - 55

/-- The number that digits write in a base. -/
def ofDigits (base : Nat) (value : Char → Nat) (digits : List Char) : Nat :=
  digits.foldl (fun total digit => base * total + value digit) 0

/-- A written exponent: `e` or `E`, a sign or nothing, and digits. -/
structure Exponent where
  mark : Char
  sign : List Char
  digits : List Char

/-- The parts of a written number. A fraction without digits is not written. -/
inductive Literal where
  | hexadecimal (sign : List Char) (mark : Char) (digits : List Char)
  | decimal (sign whole fraction : List Char) (exponent : Option Exponent)

/-! ## Text -/

/-- The characters of an exponent. -/
def Exponent.characters (exponent : Exponent) : List Char :=
  exponent.mark :: (exponent.sign ++ exponent.digits)

/-- The characters of a fraction, given its digits. -/
def fractionCharacters : List Char → List Char
  | [] => []
  | digit :: digits => '.' :: digit :: digits

/-- The characters of a number. -/
def Literal.characters : Literal → List Char
  | .hexadecimal sign mark digits => sign ++ '0' :: mark :: digits
  | .decimal sign whole fraction exponent =>
    sign ++ whole ++ fractionCharacters fraction ++ (exponent.map Exponent.characters).getD []

/-! ## Reading -/

/-- The sign at the start of a text, if there is one, and what follows. -/
def readSign : List Char → List Char × List Char
  | '+' :: rest => (['+'], rest)
  | '-' :: rest => (['-'], rest)
  | rest => ([], rest)

/-- Digits, at least one, and what follows them. -/
def readRun (isMember : Char → Bool) (characters : List Char) :
    Option (List Char × List Char) :=
  if (characters.takeWhile isMember).isEmpty then none
  else some (characters.takeWhile isMember, characters.dropWhile isMember)

/-- The whole part of a decimal number: a zero, or digits that start with none. -/
def readWhole : List Char → Option (List Char × List Char)
  | '0' :: rest => some (['0'], rest)
  | characters => readRun Char.isDigit characters

/-- The digits of a fraction, if there is one, and what follows. -/
def readFraction : List Char → Option (List Char × List Char)
  | '.' :: rest => readRun Char.isDigit rest
  | characters => some ([], characters)

/-- The exponent at the start of a text, if there is one, and what follows. -/
def readExponent : List Char → Option (Option Exponent × List Char)
  | [] => some (none, [])
  | c :: rest =>
    if c = 'e' ∨ c = 'E' then
      (readRun Char.isDigit (readSign rest).2).map fun (digits, after) =>
        (some ⟨c, (readSign rest).1, digits⟩, after)
    else some (none, c :: rest)

/-- Reads a decimal number after its sign. -/
def readDecimal (sign characters : List Char) : Option (Literal × List Char) :=
  match readWhole characters with
  | none => none
  | some (whole, afterWhole) =>
    match readFraction afterWhole with
    | none => none
    | some (fraction, afterFraction) =>
      (readExponent afterFraction).map fun (exponent, after) =>
        (.decimal sign whole fraction exponent, after)

/-- Reads a number after its sign. -/
def readUnsigned (sign : List Char) : List Char → Option (Literal × List Char)
  | '0' :: 'x' :: rest =>
    (readRun isHexDigit rest).map fun (digits, after) => (.hexadecimal sign 'x' digits, after)
  | '0' :: 'X' :: rest =>
    (readRun isHexDigit rest).map fun (digits, after) => (.hexadecimal sign 'X' digits, after)
  | characters => readDecimal sign characters

/-- Reads the number at the start of a text. -/
def readNumber (characters : List Char) : Option (Literal × List Char) :=
  readUnsigned (readSign characters).1 (readSign characters).2

theorem readSign_append (characters : List Char) :
    (readSign characters).1 ++ (readSign characters).2 = characters := by
  unfold readSign
  split <;> rfl

theorem readRun_eq_append
    {isMember : Char → Bool} {characters digits after : List Char}
    (success : readRun isMember characters = some (digits, after)) :
    characters = digits ++ after ∧ digits ≠ [] := by
  unfold readRun at success
  split at success
  · cases success
  · next nonempty =>
    simp only [Option.some.injEq, Prod.mk.injEq] at success
    obtain ⟨rfl, rfl⟩ := success
    exact ⟨List.takeWhile_append_dropWhile.symm, by simpa using nonempty⟩

theorem readWhole_eq_append
    {characters whole after : List Char}
    (success : readWhole characters = some (whole, after)) :
    characters = whole ++ after ∧ whole ≠ [] := by
  unfold readWhole at success
  split at success
  · cases success
    exact ⟨rfl, by simp⟩
  · exact readRun_eq_append success

theorem readFraction_eq_append
    {characters fraction after : List Char}
    (success : readFraction characters = some (fraction, after)) :
    characters = fractionCharacters fraction ++ after := by
  unfold readFraction at success
  split at success
  · obtain ⟨rfl, nonempty⟩ := readRun_eq_append success
    cases fraction with
    | nil => exact absurd rfl nonempty
    | cons digit digits => rfl
  · cases success
    rfl

theorem readExponent_eq_append
    {characters after : List Char} {exponent : Option Exponent}
    (success : readExponent characters = some (exponent, after)) :
    characters = (exponent.map Exponent.characters).getD [] ++ after := by
  unfold readExponent at success
  split at success
  · cases success
    rfl
  · next c rest =>
    split at success
    · simp only [Option.map_eq_some_iff] at success
      obtain ⟨⟨digits, after⟩, run, equal⟩ := success
      cases equal
      have split := readSign_append rest
      rw [(readRun_eq_append run).1] at split
      simp [Exponent.characters, split]
    · cases success
      rfl

theorem readDecimal_eq_append
    {sign characters after : List Char} {literal : Literal}
    (success : readDecimal sign characters = some (literal, after)) :
    sign ++ characters = literal.characters ++ after ∧ literal.characters ≠ [] := by
  unfold readDecimal at success
  split at success
  · cases success
  · next whole =>
    split at success
    · cases success
    · next fraction =>
      simp only [Option.map_eq_some_iff] at success
      obtain ⟨⟨exponent, after⟩, read, equal⟩ := success
      cases equal
      obtain ⟨rfl, nonempty⟩ := readWhole_eq_append whole
      rw [readFraction_eq_append fraction, readExponent_eq_append read]
      simp [Literal.characters, nonempty]

/-- The parts of a number and what follows it make up the text. -/
theorem readNumber_eq_append
    {characters after : List Char} {literal : Literal}
    (success : readNumber characters = some (literal, after)) :
    characters = literal.characters ++ after ∧ literal.characters ≠ [] := by
  unfold readNumber at success
  have signs := readSign_append characters
  revert success signs
  generalize (readSign characters).1 = sign
  generalize (readSign characters).2 = unsigned
  rintro success rfl
  unfold readUnsigned at success
  split at success
  · simp only [Option.map_eq_some_iff] at success
    obtain ⟨⟨digits, after⟩, run, equal⟩ := success
    cases equal
    simp [Literal.characters, (readRun_eq_append run).1]
  · simp only [Option.map_eq_some_iff] at success
    obtain ⟨⟨digits, after⟩, run, equal⟩ := success
    cases equal
    simp [Literal.characters, (readRun_eq_append run).1]
  · exact readDecimal_eq_append success

/-! ## Range

A decimal number is held as a bounded significand and a power of ten. Digits that the significand has no
room for count only by their place. The number is out of range if its parts, each rounded to a double,
have a product beyond the doubles.
-/

/-- A significand and the power of ten that it is multiplied by. -/
structure Scaled where
  significand : Nat := 0
  power : Int := 0
  deriving DecidableEq, Repr

namespace Scaled

/-- The significand with one more digit. -/
def extended (scaled : Scaled) (digit : Char) : Nat :=
  10 * scaled.significand + Text.digitValue digit

/-- Takes the digits of a whole part. From the first one without room on, each raises the power. -/
def takeWhole : Scaled → List Char → Scaled
  | scaled, [] => scaled
  | scaled, digit :: rest =>
    if scaled.extended digit ≤ Text.greatestCount then
      takeWhole { scaled with significand := scaled.extended digit } rest
    else { scaled with power := scaled.power + (rest.length + 1) }

/-- Takes the digits of a fraction up to the first one without room. -/
def takeFraction : Scaled → List Char → Scaled
  | scaled, [] => scaled
  | scaled, digit :: rest =>
    if scaled.extended digit ≤ Text.greatestCount then
      takeFraction ⟨scaled.extended digit, scaled.power - 1⟩ rest
    else scaled

end Scaled

/-- The double nearest to a number below its bound; of two as near the one with an even significand. -/
def nearestDouble (number : Nat) : Nat :=
  let unit := Nat.pow 2 (number.log2 + 1 - 53)
  let quotient := number / unit
  let remainder := number % unit
  if unit < 2 * remainder ∨ (unit = 2 * remainder ∧ quotient % 2 = 1) then (quotient + 1) * unit
  else quotient * unit

/-- The least number that rounds to no finite double. -/
def doubleBound : Nat :=
  Nat.pow 2 1024 - Nat.pow 2 970

/-- The greatest power of ten among the doubles. -/
def greatestPower : Nat :=
  308

/-- Whether a scaled number is beyond the doubles. -/
def Scaled.exceedsDouble (scaled : Scaled) : Bool :=
  if scaled.significand = 0 then false
  else
    match scaled.power with
    | .negSucc _ => false
    | .ofNat power =>
      if greatestPower < power then true
      else
        decide (doubleBound ≤
          nearestDouble scaled.significand * nearestDouble (Nat.pow 10 power))

/-! ## Values -/

/-- The power of ten that an exponent writes. -/
def Exponent.value (exponent : Exponent) : Int :=
  if exponent.sign = ['-'] then -ofDigits 10 Text.digitValue exponent.digits
  else ofDigits 10 Text.digitValue exponent.digits

/-- The value of an integer in range, unless it is a negative zero. -/
def integerValue? (sign whole : List Char) : Option Int :=
  let magnitude := ofDigits 10 Text.digitValue whole
  if sign = ['-'] then
    if magnitude ≠ 0 ∧ magnitude ≤ Text.greatestInteger + 1 then some (-magnitude) else none
  else if magnitude ≤ Text.greatestCount then some magnitude
  else none

/-- The value of a number. One that is out of all ranges is a text. -/
def Literal.value (literal : Literal) : Value :=
  match literal with
  | .hexadecimal sign _ digits =>
    let magnitude := ofDigits 16 hexValue digits
    if magnitude ≤ Text.greatestInteger then
      .integer (if sign = ['-'] then -magnitude else magnitude)
    else .text (String.ofList literal.characters)
  | .decimal sign whole fraction exponent =>
    let unraised := (Scaled.takeWhole {} whole).takeFraction fraction
    let power := unraised.power + (exponent.map Exponent.value).getD 0
    if { unraised with power := power }.exceedsDouble then
      .text (String.ofList literal.characters)
    else
      match fraction, exponent, integerValue? sign whole with
      | [], none, some value => .integer value
      | _, _, _ => .real (String.ofList literal.characters)

end ScriptDebugger.Jsonc
