/-!
# Hex dumps

Bytes in rows of sixteen: the address of the first, the bytes in hexadecimal, and the characters that
they write.
-/

namespace ScriptDebugger.HexDump

/-- A hexadecimal digit in lower case. -/
def digit (value : Nat) : Char :=
  Nat.digitChar value

/-- A byte as two hexadecimal digits. -/
def byteText (byte : UInt8) : List Char :=
  [digit (byte.toNat / 16), digit (byte.toNat % 16)]

/-- A text filled up with a character on its left. -/
def padLeft (width : Nat) (filling : Char) (characters : List Char) : List Char :=
  List.replicate (width - characters.length) filling ++ characters

/-- A text filled up with a character on its right. -/
def padRight (width : Nat) (filling : Char) (characters : List Char) : List Char :=
  characters ++ List.replicate (width - characters.length) filling

/-- An address as at least eight hexadecimal digits; a negative one as the complement of two to the
power of 64. -/
def addressText (address : Int) : List Char :=
  padLeft 8 '0' (Nat.toDigits 16 (address % Nat.pow 2 64).toNat)

/-- The bytes of a row, with blanks between them. -/
def hexColumn (bytes : List UInt8) : List Char :=
  [' '].intercalate (bytes.map byteText)

/-- The character that a byte writes, or a dot if there is no visible one. -/
def character (byte : UInt8) : Char :=
  if 32 ≤ byte.toNat ∧ byte.toNat ≤ 126 then Char.ofNat byte.toNat else '.'

/-- A row of at most sixteen bytes. -/
def row (address : Int) (bytes : List UInt8) : List Char :=
  addressText address ++ "  ".toList ++ padRight 47 ' ' (hexColumn bytes) ++ "  |".toList ++
    bytes.map character ++ ['|']

/-- The rows of bytes that start at an address. -/
def rows (address : Int) (bytes : List UInt8) : List (List Char) :=
  match bytes with
  | [] => []
  | first :: rest =>
    row address ((first :: rest).take 16) :: rows (address + 16) ((first :: rest).drop 16)
termination_by bytes.length
decreasing_by
  simp only [List.length_drop, List.length_cons]
  omega

/-- The hex dump of bytes that start at an address. -/
def text (address : Int) (bytes : List UInt8) : String :=
  String.ofList (['\n'].intercalate (rows address bytes))

end ScriptDebugger.HexDump
