import Transcript.Json.Printer
import Transcript.Text.Quoted
import Transcript.Time.Timestamp

/-! # Reading values out of JSON

A decoder takes a JSON value apart or says what is wrong with its shape. Records may be written as
objects or as lists: `field?`, `required` and `defaulted` read named fields, `item` and `itemOr` the
places of a list, and `checkWidth` refuses a list that is too long.

Every decoder reads the named fields of a record in the order of their names and only then asks for
those that are missing, in the order of the record. The places of a list are read from first to
last.
-/

namespace Transcript.Json

/-- What kind of value stands where another one was expected. -/
inductive Shape where
  | null
  | truth (value : Bool)
  | integer (value : Int)
  | double (value : Binary64)
  | text (value : String)
  | list
  | object
deriving DecidableEq, Repr

def shape : Json → Shape
  | .null => .null
  | .bool b => .truth b
  | .num (.int n) => .integer n
  | .num (.float x) => .double x
  | .str s => .text s
  | .arr _ => .list
  | .obj _ => .object

/-- The words for a kind of value; a scalar is quoted. -/
def Shape.describe : Shape → String
  | null => "null"
  | truth b => "boolean `" ++ (if b then "true" else "false") ++ "`"
  | integer n => "integer `" ++ (Number.int n).text ++ "`"
  | double x => "floating point `" ++ (Number.float x).text ++ "`"
  | text s => "string " ++ Text.Quoted.quote s
  | list => "sequence"
  | object => "map"

/-- What a decoder looked for. -/
inductive Expected where
  | text
  | truth
  | list
  | natural
  | double
  | nothing
  | timestamp
  /-- A record, as an object or a list. -/
  | record (name : String)
  /-- A record as a list with a place for each field. -/
  | recordOf (name : String) (width : Nat)
  /-- A message content, as its kind and its data. -/
  | content
  /-- One of a few names, alone or as the only name of an object. -/
  | variant
  /-- One of a few names, alone. -/
  | variantName
  /-- An object with one field. -/
  | singleField
  /-- A list that ends earlier. -/
  | fewerItems
  /-- A list of that length. -/
  | items (count : Nat)
deriving DecidableEq, Repr

def Expected.describe : Expected → String
  | text => "a string"
  | truth => "a boolean"
  | list => "a sequence"
  | natural => "u64"
  | double => "f64"
  | nothing => "unit"
  | timestamp => "an RFC 3339 formatted date and time string"
  | record name => "struct " ++ name
  | recordOf name width =>
    "struct " ++ name ++ " with " ++ toString width
      ++ (if width = 1 then " element" else " elements")
  | content => "adjacently tagged enum MessageContent"
  | variant => "string or map"
  | variantName => "variant identifier"
  | singleField => "map with a single key"
  | fewerItems => "fewer elements in array"
  | items count =>
    if count = 1 then "1 element in sequence" else toString count ++ " elements in sequence"

/-- Why a JSON value is not what a decoder looked for. -/
inductive ShapeError where
  | wrongType (found : Shape) (expected : Expected)
  | wrongValue (found : Shape) (expected : Expected)
  | wrongLength (length : Nat) (expected : Expected)
  | missingField (name : String)
  | unknownVariant (name : String) (known : List String)
  | badTimestamp (fault : Timestamp.Fault)
deriving DecidableEq, Repr

def ShapeError.message : ShapeError → String
  | wrongType found expected =>
    "invalid type: " ++ found.describe ++ ", expected " ++ expected.describe
  | wrongValue found expected =>
    "invalid value: " ++ found.describe ++ ", expected " ++ expected.describe
  | wrongLength length expected =>
    "invalid length " ++ toString length ++ ", expected " ++ expected.describe
  | missingField name => "missing field `" ++ name ++ "`"
  | unknownVariant name known =>
    "unknown variant `" ++ name ++ "`, expected one of "
      ++ ", ".intercalate (known.map fun v => "`" ++ v ++ "`")
  | badTimestamp fault => fault.message

/-- A reader of values of a type out of JSON. -/
abbrev Decoder (α : Type) : Type := Json → Except ShapeError α

namespace Decoder

variable {α : Type}

def text : Decoder String
  | .str s => .ok s
  | other => .error (.wrongType other.shape .text)

def truth : Decoder Bool
  | .bool b => .ok b
  | other => .error (.wrongType other.shape .truth)

/-- A natural number of at most 64 bits. -/
def natural : Decoder UInt64
  | .num (.int n) =>
    if 0 ≤ n ∧ n < UInt64.size then .ok (UInt64.ofNat n.toNat)
    else .error (.wrongValue (.integer n) .natural)
  | other => .error (.wrongType other.shape .natural)

/-- A number, to the nearest double. -/
def double (value : Json) : Except ShapeError Binary64 :=
  match value.double? with
  | some x => .ok x
  | none => .error (.wrongType value.shape .double)

def timestamp : Decoder Timestamp
  | .str s => (Timestamp.read s).mapError .badTimestamp
  | other => .error (.wrongType other.shape .timestamp)

def any : Decoder Json := .ok

/-- A text, or the text of any other value; `null` is the empty text. -/
def anyText : Decoder String
  | .str s => .ok s
  | .null => .ok ""
  | other => .ok other.compact

def optional (decode : Decoder α) : Decoder (Option α)
  | .null => .ok none
  | other => some <$> decode other

def list (decode : Decoder α) : Decoder (List α)
  | .arr items => items.mapM decode
  | other => .error (.wrongType other.shape .list)

/-- One of a few names, alone. -/
def variantName (known : List (String × α)) : Decoder α
  | .str name =>
    match known.lookup name with
    | some a => .ok a
    | none => .error (.unknownVariant name (known.map Prod.fst))
  | other => .error (.wrongType other.shape .variantName)

/-- One of a few names, alone or as the only name of an object, where it says nothing more. -/
def variant (known : List (String × α)) : Decoder α
  | .str name => variantName known (.str name)
  | .obj [(name, value)] => do
    let a ← variantName known (.str name)
    match value with
    | .null => return a
    | other => throw (.wrongType other.shape .nothing)
  | .obj _ => .error (.wrongValue .object .singleField)
  | other => .error (.wrongType other.shape .variant)

def field? (fields : List (String × Json)) (name : String) (decode : Decoder α) :
    Except ShapeError (Option α) :=
  match Json.lookup name fields with
  | some value => some <$> decode value
  | none => .ok none

def required (name : String) : Option α → Except ShapeError α
  | some a => .ok a
  | none => .error (.missingField name)

def item (name : String) (width : Nat) (items : List Json) (index : Nat) (decode : Decoder α) :
    Except ShapeError α :=
  match items[index]? with
  | some value => decode value
  | none => .error (.wrongLength index (.recordOf name width))

/-- The value at a place of a list, or the given one where the list has ended. -/
def itemOr (items : List Json) (index : Nat) (decode : Decoder α) (absent : α) :
    Except ShapeError α :=
  match items[index]? with
  | some value => decode value
  | none => .ok absent

/-- Refuse a list that goes on after its last place. Of a value that was held back until its kind
was known only the number of items read is known. -/
def checkWidth (held : Bool) (width : Nat) (items : List Json) : Except ShapeError Unit :=
  if items.length ≤ width then .ok ()
  else .error (.wrongLength items.length (if held then .items width else .fewerItems))

/-- A record, from its fields or from its places. -/
def record (name : String) (ofFields : List (String × Json) → Except ShapeError α)
    (ofItems : List Json → Except ShapeError α) : Decoder α
  | .obj fields => ofFields fields
  | .arr items => ofItems items
  | other => .error (.wrongType other.shape (.record name))

theorem text_eq_ok_iff {value : Json} {s : String} : text value = .ok s ↔ value = .str s := by
  unfold text
  split <;> simp_all

theorem anyText_ok (value : Json) : ∃ s, anyText value = .ok s := by
  unfold anyText
  split <;> exact ⟨_, rfl⟩

@[simp] theorem list_arr (decode : Decoder α) (items : List Json) :
    list decode (.arr items) = items.mapM decode := rfl

end Decoder

end Transcript.Json
