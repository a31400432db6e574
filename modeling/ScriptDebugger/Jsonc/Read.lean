import ScriptDebugger.Jsonc.Token

/-!
# Reading JSON with comments

A text is read token by token. What has been read so far is a `Reading`: a place, and what encloses it
from the inside out. Commas between elements or members may be left out, and one may follow the last;
two never follow each other and none comes first.
-/

namespace ScriptDebugger.Jsonc

/-- An array or object that encloses the value being read, with what came before that value, the last
first. -/
inductive Enclosure where
  | array (reversed : List Value)
  | object (reversed : List (String × Value)) (name : String)

/-- How far the reading has come. -/
inductive Reading where
  /-- Before the value. -/
  | start
  /-- Inside an array, after an element or a comma or at its start. -/
  | elements (reversed : List Value) (mayDivide : Bool) (outer : List Enclosure)
  /-- Inside an object, after a member or a comma or at its start. -/
  | members (reversed : List (String × Value)) (mayDivide : Bool) (outer : List Enclosure)
  /-- After the name of a member. -/
  | named (reversed : List (String × Value)) (name : String) (outer : List Enclosure)
  /-- After the name of a member and the colon. -/
  | assigned (reversed : List (String × Value)) (name : String) (outer : List Enclosure)
  /-- After the value. -/
  | finished (value : Value)

/-- Puts a complete value where it belongs. -/
def Reading.complete (value : Value) : List Enclosure → Reading
  | [] => .finished value
  | .array reversed :: outer => .elements (value :: reversed) true outer
  | .object reversed name :: outer => .members ((name, value) :: reversed) true outer

/-- Starts a value with a token. A word is no value. -/
def Reading.begin (outer : List Enclosure) : Token → Option Reading
  | .openBrace => some (.members [] false outer)
  | .openBracket => some (.elements [] false outer)
  | .text content => some (.complete (.text content) outer)
  | .number literal => some (.complete literal.value outer)
  | .bool value => some (.complete (.bool value) outer)
  | .null => some (.complete .null outer)
  | _ => none

/-- The member name that a token writes. -/
def Token.name? : Token → Option String
  | .text content => some content
  | .word name => some name
  | .number literal => some (String.ofList literal.characters)
  | _ => none

/-- Reads one more token. -/
def Reading.step (reading : Reading) (token : Token) : Option Reading :=
  match reading, token with
  | .start, token => Reading.begin [] token
  | .elements reversed _ outer, .closeBracket => some (.complete (.array reversed.reverse) outer)
  | .elements reversed mayDivide outer, .comma =>
    if mayDivide then some (.elements reversed false outer) else none
  | .elements reversed _ outer, token => Reading.begin (.array reversed :: outer) token
  | .members reversed _ outer, .closeBrace => some (.complete (.object reversed.reverse) outer)
  | .members reversed mayDivide outer, .comma =>
    if mayDivide then some (.members reversed false outer) else none
  | .members reversed _ outer, token => token.name?.map fun name => .named reversed name outer
  | .named reversed name outer, .colon => some (.assigned reversed name outer)
  | .named _ _ _, _ => none
  | .assigned reversed name outer, token => Reading.begin (.object reversed name :: outer) token
  | .finished _, _ => none

/-- Why a text gives no value. -/
inductive ReadError where
  /-- The text breaks the rules of the notation. -/
  | malformed
  /-- The text holds blanks and comments only. -/
  | noValue
deriving DecidableEq

/-- The value that tokens write. -/
def ofTokens (tokens : List Token) : Except ReadError Value :=
  match tokens.foldlM Reading.step .start with
  | some (.finished value) => .ok value
  | some .start => .error .noValue
  | _ => .error .malformed

/-- The value that a text writes. -/
def read (text : String) : Except ReadError Value :=
  match tokens text with
  | none => .error .malformed
  | some tokens => ofTokens tokens

end ScriptDebugger.Jsonc
