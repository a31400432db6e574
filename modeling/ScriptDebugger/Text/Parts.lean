import ScriptDebugger.Text.Character

/-!
# Parts of a text

Texts without blanks at their ends, their fields and words, their lines, and the bytes that write them.
A line ends at a line feed, or at a carriage return and a line feed. What follows the last line feed is
a line of its own unless it is empty.
-/

namespace ScriptDebugger.Text

/-! ## Trimming -/

/-- The characters from the first that is no blank. -/
def trimStart (characters : List Char) : List Char :=
  characters.dropWhile isBlank

/-- The characters up to the last that is no blank. -/
def trimEnd (characters : List Char) : List Char :=
  (characters.reverse.dropWhile isBlank).reverse

/-- The characters from the first to the last that is no blank. -/
def trimChars (characters : List Char) : List Char :=
  trimEnd (trimStart characters)

/-- A text without the blanks at its ends. -/
def trim (text : String) : String :=
  String.ofList (trimChars text.toList)

/-! ## Fields and words -/

/-- The parts between the occurrences of a separator, one more than there are occurrences. -/
def fields (separator : Char) : List Char → List (List Char)
  | [] => [[]]
  | c :: rest =>
    if c = separator then [] :: fields separator rest
    else
      match fields separator rest with
      | [] => [[c]]
      | first :: others => (c :: first) :: others

/-- The part before the first occurrence of a separator and the part after it. -/
def splitOnce (separates : Char → Bool) (characters : List Char) :
    Option (List Char × List Char) :=
  match characters.dropWhile fun c => !separates c with
  | [] => none
  | _ :: after => some (characters.takeWhile fun c => !separates c, after)

/-- The first word of a text, which blanks may precede, and what follows it. -/
def nextWord (characters : List Char) : List Char × List Char :=
  ((trimStart characters).takeWhile fun c => !isBlank c,
    (trimStart characters).dropWhile fun c => !isBlank c)

/-! ## Lines -/

/-- The text of a line that a line feed ended, from its characters in reverse: one carriage return at
its end belongs to the line's end. -/
def endedLine : List Char → String
  | '\r' :: reversed => String.ofList reversed.reverse
  | reversed => String.ofList reversed.reverse

/-- The lines of the characters, after the lines `found` and the characters `reversed` of the
current line. -/
def linesFrom (found : Array String) (reversed : List Char) : List Char → Array String
  | [] => if reversed.isEmpty then found else found.push (String.ofList reversed.reverse)
  | c :: rest =>
    if c = '\n' then linesFrom (found.push (endedLine reversed)) [] rest
    else linesFrom found (c :: reversed) rest

/-- The lines of a text. -/
def lines (text : String) : List String :=
  (linesFrom #[] [] text.toList).toList

/-! ## Bytes -/

/-- The bytes that write a text. -/
def utf8 (text : String) : List UInt8 :=
  text.toList.flatMap String.utf8EncodeChar

/-- The text that bytes write, if they are well formed. -/
def ofUtf8? (bytes : List UInt8) : Option String :=
  String.fromUTF8? ⟨bytes.toArray⟩

end ScriptDebugger.Text
