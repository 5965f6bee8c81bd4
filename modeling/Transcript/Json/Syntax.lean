import Transcript.Text.Utf8

/-! # Faults in a JSON text

A reader of a JSON text that meets a fault stops with the characters it has not taken. The place of
the fault is counted in bytes from there: the byte itself, or a few bytes further, and never beyond
the end of the text. Line and column follow from the bytes up to that place.
-/

namespace Transcript.Json

/-- What is wrong with a text that is not JSON. -/
inductive Fault where
  /-- The text ends where a value has to be. -/
  | unfinishedValue
  /-- The text ends inside a string. -/
  | unfinishedString
  /-- The text ends inside a list. -/
  | unfinishedList
  /-- The text ends inside an object. -/
  | unfinishedObject
  /-- No value starts with this character. -/
  | valueExpected
  /-- A word that starts like `null`, `true` or `false` goes on differently. -/
  | keywordExpected
  /-- A name is not followed by a colon. -/
  | colonExpected
  /-- An item is followed by neither a comma nor the end of the list. -/
  | commaOrListEndExpected
  /-- A field is followed by neither a comma nor the end of the object. -/
  | commaOrObjectEndExpected
  /-- A comma is followed by the end of the list or object. -/
  | trailingComma
  /-- The name of a field is not a string. -/
  | nameNotString
  /-- A number has a leading zero, or lacks a digit that it needs. -/
  | malformedNumber
  /-- A number is too large to be finite. -/
  | numberTooLarge
  /-- A string holds a control character that is not escaped. -/
  | controlInString
  /-- A backslash is followed by no escape. -/
  | malformedEscape
  /-- One half of a surrogate pair stands where the other half, or none, has to be. -/
  | unpairedSurrogate
  /-- The first half of a surrogate pair is followed by no escape. -/
  | unfinishedSurrogatePair
  /-- Lists and objects are nested deeper than allowed. -/
  | nestedTooDeep
  /-- The value is followed by more than blanks. -/
  | trailingText
deriving DecidableEq, Repr

def Fault.message : Fault → String
  | unfinishedValue => "EOF while parsing a value"
  | unfinishedString => "EOF while parsing a string"
  | unfinishedList => "EOF while parsing a list"
  | unfinishedObject => "EOF while parsing an object"
  | valueExpected => "expected value"
  | keywordExpected => "expected ident"
  | colonExpected => "expected `:`"
  | commaOrListEndExpected => "expected `,` or `]`"
  | commaOrObjectEndExpected => "expected `,` or `\x7d`"
  | trailingComma => "trailing comma"
  | nameNotString => "key must be a string"
  | malformedNumber => "invalid number"
  | numberTooLarge => "number out of range"
  | controlInString =>
    "control character (\\u0000-\\u001F) found while parsing a string"
  | malformedEscape => "invalid escape"
  | unpairedSurrogate => "lone leading surrogate in hex escape"
  | unfinishedSurrogatePair => "unexpected end of hex escape"
  | nestedTooDeep => "recursion limit exceeded"
  | trailingText => "trailing characters"

/-- Where a reader stopped: the characters not taken, and how many bytes of them the place of the
fault lies further on. -/
structure Stop where
  fault : Fault
  rest : List Char
  further : Nat
deriving DecidableEq, Repr

/-- A place in a text: lines are counted from one, and the column is the number of bytes of the line
up to and with the place. -/
structure Place where
  line : Nat
  column : Nat
deriving DecidableEq, Repr

/-- The place that many bytes into a text that starts at `place`. -/
def Place.advance (place : Place) (bytes : Nat) : List Char → Place
  | [] => place
  | c :: rest =>
    if bytes = 0 then place
    else if c = '\n' then Place.advance ⟨place.line + 1, 0⟩ (bytes - 1) rest
    else
      Place.advance ⟨place.line, place.column + min bytes c.utf8Size⟩ (bytes - c.utf8Size) rest

structure SyntaxError where
  fault : Fault
  place : Place
deriving DecidableEq, Repr

def SyntaxError.message (e : SyntaxError) : String :=
  e.fault.message ++ " at line " ++ toString e.place.line ++ " column " ++ toString e.place.column

/-- The fault at which a reader of the text stopped. -/
def Stop.locate (stop : Stop) (text : List Char) : SyntaxError :=
  let taken := Text.Utf8.byteLength text - Text.Utf8.byteLength stop.rest
  let place := min (Text.Utf8.byteLength text) (taken + stop.further)
  ⟨stop.fault, Place.advance ⟨1, 0⟩ place text⟩

end Transcript.Json
