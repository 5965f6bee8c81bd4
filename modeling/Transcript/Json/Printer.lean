import Transcript.Json.Basic
import Transcript.Numeric.Shortest

/-! # Writing JSON texts

`Json.compact` writes a value without any blank, `Json.pretty` with one item or field to a line and
two blanks to a level. Both write the fields of an object in the order in which it holds them, and
differ in blanks only.
-/

namespace Transcript.Json

/-- Doubles are written with digits alone from `0.00001` up to below `10 ^ 16`. -/
def doubleLayout : Decimal.Layout := ⟨-5, 15⟩

def Number.text : Number → String
  | .int n => toString n
  | .float x => x.shortest.render doubleLayout x.negative

/-- The characters that stand for `c` inside a string. -/
def escapeChar (c : Char) : List Char :=
  match c with
  | '"' => ['\\', '"']
  | '\\' => ['\\', '\\']
  | '\x08' => ['\\', 'b']
  | '\x0c' => ['\\', 'f']
  | '\n' => ['\\', 'n']
  | '\r' => ['\\', 'r']
  | '\t' => ['\\', 't']
  | c =>
    if c.toNat < 0x20 then
      ['\\', 'u', '0', '0', Nat.digitChar (c.toNat / 16), Nat.digitChar (c.toNat % 16)]
    else [c]

def quote (text : String) : String :=
  String.ofList ('"' :: (text.toList.flatMap escapeChar ++ ['"']))

mutual

/-- The text of a value, without blanks. -/
def compact : Json → String
  | .null => "null"
  | .bool true => "true"
  | .bool false => "false"
  | .num n => n.text
  | .str s => quote s
  | .arr items => "[" ++ ",".intercalate (compactItems items) ++ "]"
  | .obj fields => "\x7b" ++ ",".intercalate (compactFields fields) ++ "\x7d"

def compactItems : List Json → List String
  | [] => []
  | item :: rest => compact item :: compactItems rest

def compactFields : List (String × Json) → List String
  | [] => []
  | field :: rest => compactField field :: compactFields rest

def compactField : String × Json → String
  | (name, value) => quote name ++ ":" ++ compact value

end

/-- A list or object of at least one entry, an entry to a line, inside `level` others. -/
def block (level : Nat) (start stop : String) (entries : List String) : String :=
  let margin := "\n" ++ String.ofList (List.replicate (2 * level) ' ')
  start ++ ",".intercalate (entries.map fun entry => margin ++ "  " ++ entry) ++ margin ++ stop

mutual

/-- The text of a value that stands inside `level` lists and objects, an entry to a line. -/
def prettyAt (level : Nat) : Json → String
  | .arr (item :: items) => block level "[" "]" (prettyItems (level + 1) (item :: items))
  | .obj (field :: fields) =>
    block level "\x7b" "\x7d" (prettyFields (level + 1) (field :: fields))
  | .null => "null"
  | .bool true => "true"
  | .bool false => "false"
  | .num n => n.text
  | .str s => quote s
  | .arr [] => "[]"
  | .obj [] => "\x7b\x7d"

def prettyItems (level : Nat) : List Json → List String
  | [] => []
  | item :: rest => prettyAt level item :: prettyItems level rest

def prettyFields (level : Nat) : List (String × Json) → List String
  | [] => []
  | field :: rest => prettyField level field :: prettyFields level rest

def prettyField (level : Nat) : String × Json → String
  | (name, value) => quote name ++ ": " ++ prettyAt level value

end

def pretty (value : Json) : String := prettyAt 0 value

end Transcript.Json
