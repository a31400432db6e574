/-!
# Integers written in decimal

Integers are bounded: a signed one lies between `leastInteger` and `greatestInteger`, a count (a line
number, a length) between zero and `greatestCount`. A written integer has an optional sign and ASCII
digits; leading zeros are allowed.
-/

namespace ScriptDebugger.Text

/-- The greatest signed integer. -/
def greatestInteger : Nat :=
  9223372036854775807

/-- The least signed integer. -/
def leastInteger : Int :=
  -9223372036854775808

/-- The greatest count. -/
def greatestCount : Nat :=
  18446744073709551615

/-- Why a text is no integer in range. -/
inductive IntegerError where
  | empty
  | invalidDigit
  | tooLarge
  | tooSmall
  deriving DecidableEq, Repr

/-- The wording of an integer error. -/
def IntegerError.message : IntegerError → String
  | .empty => "cannot parse integer from empty string"
  | .invalidDigit => "invalid digit found in string"
  | .tooLarge => "number too large to fit in target type"
  | .tooSmall => "number too small to fit in target type"

/-- The value of an ASCII digit. -/
def digitValue (c : Char) : Nat :=
  c.toNat - 48

/-- Reads digits after the ones that gave `value`. The first character that is no digit, or that
takes the value beyond `limit`, decides the error. -/
def readDigits (limit : Nat) (excess : IntegerError) :
    Nat → List Char → Except IntegerError Nat
  | value, [] => .ok value
  | value, c :: rest =>
    if c.isDigit then
      if 10 * value + digitValue c ≤ limit then
        readDigits limit excess (10 * value + digitValue c) rest
      else .error excess
    else .error .invalidDigit

/-- Reads the magnitude of an integer, which has at least one digit. -/
def readMagnitude (limit : Nat) (excess : IntegerError) : List Char → Except IntegerError Nat
  | [] => .error .invalidDigit
  | digits => readDigits limit excess 0 digits

/-- Reads a count, with or without a plus sign. -/
def readCountChars : List Char → Except IntegerError Nat
  | [] => .error .empty
  | '+' :: digits => readMagnitude greatestCount .tooLarge digits
  | digits => readMagnitude greatestCount .tooLarge digits

/-- Reads a signed integer, with or without a sign. -/
def readIntegerChars : List Char → Except IntegerError Int
  | [] => .error .empty
  | '+' :: digits => (readMagnitude greatestInteger .tooLarge digits).map Int.ofNat
  | '-' :: digits =>
    (readMagnitude (greatestInteger + 1) .tooSmall digits).map fun magnitude => -Int.ofNat magnitude
  | digits => (readMagnitude greatestInteger .tooLarge digits).map Int.ofNat

/-- Reads a count from a text. -/
def readCount (text : String) : Except IntegerError Nat :=
  readCountChars text.toList

/-- Reads a signed integer from a text. -/
def readInteger (text : String) : Except IntegerError Int :=
  readIntegerChars text.toList

/-- The decimal text of an integer, with a minus sign below zero. -/
def decimal : Int → String
  | .ofNat value => String.ofList (Nat.toDigits 10 value)
  | .negSucc value => String.ofList ('-' :: Nat.toDigits 10 (value + 1))

/-! ## Durations -/

/-- The decimal places of a number of thousandths, without zeros at their end. -/
def thousandths (value : Nat) : List Char :=
  let places := [Nat.digitChar (value / 100), Nat.digitChar (value / 10 % 10),
    Nat.digitChar (value % 10)]
  (places.reverse.dropWhile (· == '0')).reverse

/-- A number of milliseconds in the largest unit of which it holds at least one. -/
def duration (milliseconds : Nat) : String :=
  if milliseconds = 0 then "0ns"
  else if milliseconds < 1000 then
    String.ofList (Nat.toDigits 10 milliseconds ++ ['m', 's'])
  else if milliseconds % 1000 = 0 then
    String.ofList (Nat.toDigits 10 (milliseconds / 1000) ++ ['s'])
  else
    String.ofList (Nat.toDigits 10 (milliseconds / 1000) ++ '.' ::
      (thousandths (milliseconds % 1000) ++ ['s']))

end ScriptDebugger.Text
