import Transcript.Json.Basic
import Transcript.Json.Syntax

/-! # Reading JSON texts

A reader of a part takes characters from the front of a list and returns what is left, which is
shorter; the length of the list bounds every loop. `Json.parse` takes the whole text: one value,
with the four JSON blanks around it and nothing else.

An integer that fits 64 bits is read exactly, and every other number as a double. The digits of a
number are collected in 64 bits, those that no longer fit are left out, and `Binary64.ofParts?` makes
the double of the rest: not always the nearest one. Of fields of one name the last one counts.
-/

namespace Transcript.Json.Reader

/-- The blanks that may stand between the parts of a JSON text. -/
def isSpace (c : Char) : Bool :=
  c == ' ' || c == '\n' || c == '\t' || c == '\r'

/-- The text from the first character that is not such a blank. -/
def skipSpace (text : List Char) : List Char :=
  text.dropWhile isSpace

theorem length_skipSpace_le (text : List Char) : (skipSpace text).length ≤ text.length :=
  (List.dropWhile_suffix isSpace).length_le

/-- What is left of a text after a part of at least one character. -/
abbrev Shorter (text : List Char) : Type := { rest : List Char // rest.length < text.length }

/-- What is left of a text of at most `bound` characters. -/
abbrev Within (bound : Nat) : Type := { rest : List Char // rest.length ≤ bound }

/-- The first character that is not such a blank, and what is left behind it. -/
def next? (text : List Char) : Option (Char × Shorter text) :=
  match h : skipSpace text with
  | [] => none
  | c :: rest => some (c, ⟨rest, by
      have skipped := length_skipSpace_le text
      rw [h] at skipped
      exact skipped⟩)

/-! ## Words and numbers -/

def word : (expected : List Char) → (text : List Char) → Except Stop (Within text.length)
  | [], text => .ok ⟨text, Nat.le_refl _⟩
  | _ :: _, [] => .error ⟨.unfinishedValue, [], 0⟩
  | w :: expected, c :: text =>
    if c = w then (word expected text).map fun rest => ⟨rest.1, Nat.le_succ_of_le rest.2⟩
    else .error ⟨.keywordExpected, c :: text, 1⟩

/-- The number that decimal digits stand for, after those of `high`. -/
def digitsValue (high : Nat) (digits : List Char) : Nat :=
  digits.foldl (fun n c => n * 10 + (c.toNat - '0'.toNat)) high

/-- The number that decimal digits stand for after those of `high`, up to the first digit that takes
it beyond 64 bits, and how many digits are left out. -/
def significand (high : Nat) : List Char → Nat × Nat
  | [] => (high, 0)
  | c :: digits =>
    let value := digitsValue high [c]
    if value < UInt64.size then significand value digits else (high, digits.length + 1)

/-- Read the digits of an exponent, up to the first one that takes it beyond 31 bits. -/
def exponentDigits (high : Nat) : List Char → Nat × List Char
  | [] => (high, [])
  | c :: text =>
    if c.isDigit then
      let value := digitsValue high [c]
      if value < Nat.pow 2 31 then exponentDigits value text else (value, text)
    else (high, c :: text)

theorem length_exponentDigits_le (high : Nat) (text : List Char) :
    (exponentDigits high text).2.length ≤ text.length := by
  induction text generalizing high with
  | nil => simp [exponentDigits]
  | cons c text ih =>
    unfold exponentDigits
    split
    · dsimp only
      split
      · exact Nat.le_succ_of_le (ih _)
      · simp
    · simp

/-- The double for `±significand * 10 ^ exponent`, unless it is too large. -/
def double (negative : Bool) (significand : Nat) (exponent : Int) (rest : List Char) :
    Except Stop Number :=
  match Binary64.ofParts? negative significand exponent with
  | some x => .ok (.float x)
  | none => .error ⟨.numberTooLarge, rest, 0⟩

/-- Read what follows the mark of an exponent, which is added to the exponent that the digits have.
An exponent beyond 31 bits makes every significand but zero too large, or every significand zero, so
its further digits do not matter. -/
def exponent (negative : Bool) (significand : Nat) (start : Int) (text : List Char) :
    Except Stop (Number × Within text.length) :=
  let signed : Bool × Within text.length :=
    match text with
    | '-' :: rest => (true, ⟨rest, Nat.le_succ _⟩)
    | '+' :: rest => (false, ⟨rest, Nat.le_succ _⟩)
    | rest => (false, ⟨rest, Nat.le_refl _⟩)
  match signed with
  | (_, ⟨[], _⟩) => .error ⟨.unfinishedValue, [], 0⟩
  | (below, ⟨c :: digits, h⟩) =>
    if c.isDigit then
      let read := exponentDigits 0 (c :: digits)
      have hread : read.2.length ≤ text.length :=
        Nat.le_trans (length_exponentDigits_le 0 (c :: digits)) h
      if read.1 < Nat.pow 2 31 then do
        let size : Int := if below then -read.1 else read.1
        let number ← double negative significand (start + size) read.2
        return (number, ⟨read.2, hread⟩)
      else if significand = 0 ∨ below then
        .ok (.float (Binary64.zero negative), ⟨read.2.dropWhile Char.isDigit,
          Nat.le_trans (List.dropWhile_suffix _).length_le hread⟩)
      else .error ⟨.numberTooLarge, read.2, 0⟩
    else .error ⟨.malformedNumber, c :: digits, 1⟩

/-- Read what may follow the digits of a number: an exponent, or nothing. -/
def scaled (negative : Bool) (significand : Nat) (start : Int) (text : List Char) :
    Except Stop (Number × Within text.length) :=
  match text with
  | 'e' :: rest | 'E' :: rest =>
    (exponent negative significand start rest).map fun read =>
      (read.1, ⟨read.2.1, Nat.le_succ_of_le read.2.2⟩)
  | rest => (double negative significand start rest).map fun number =>
      (number, ⟨rest, Nat.le_refl _⟩)

/-- The number that digits alone stand for: an integer if it fits 64 bits and is not `-0`. -/
def whole (negative : Bool) (n leftOut : Nat) (rest : List Char) : Except Stop Number :=
  if 0 < leftOut then double negative n leftOut rest
  else if negative then
    if n ≠ 0 ∧ n ≤ Nat.pow 2 63 then .ok (.int (-n)) else double true n 0 rest
  else .ok (.int n)

/-- Read what may follow the whole digits of a number: a fraction, an exponent, or nothing. The
digits of a fraction go on where those before the point ended, even if some of them are left out. -/
def fraction (negative : Bool) (n leftOut : Nat) (text : List Char) :
    Except Stop (Number × Within text.length) :=
  match text with
  | '.' :: rest =>
    let digits := rest.takeWhile Char.isDigit
    let after := rest.dropWhile Char.isDigit
    have hafter : after.length ≤ rest.length := (List.dropWhile_suffix _).length_le
    if digits.isEmpty then
      if rest.isEmpty then .error ⟨.unfinishedValue, [], 1⟩ else .error ⟨.malformedNumber, rest, 1⟩
    else
      let read := significand n digits
      let places := digits.length - read.2
      (scaled negative read.1 (leftOut - places) after).map fun read =>
        (read.1, ⟨read.2.1, Nat.le_trans read.2.2 (Nat.le_succ_of_le hafter)⟩)
  | 'e' :: rest => scaled negative n leftOut ('e' :: rest)
  | 'E' :: rest => scaled negative n leftOut ('E' :: rest)
  | rest => (whole negative n leftOut rest).map fun number => (number, ⟨rest, Nat.le_refl _⟩)

/-- Read a number after its sign. -/
def unsigned (negative : Bool) (text : List Char) : Except Stop (Number × Shorter text) :=
  match text with
  | [] => .error ⟨.unfinishedValue, [], 0⟩
  | c :: rest =>
    if c.isDigit then
      let after := rest.dropWhile Char.isDigit
      have hafter : after.length ≤ rest.length := (List.dropWhile_suffix _).length_le
      if c = '0' ∧ after.length ≠ rest.length then .error ⟨.malformedNumber, rest, 1⟩
      else
        let read := significand 0 (c :: rest.takeWhile Char.isDigit)
        (fraction negative read.1 read.2 after).map fun read =>
          (read.1, ⟨read.2.1, Nat.lt_succ_of_le (Nat.le_trans read.2.2 hafter)⟩)
    else .error ⟨.malformedNumber, c :: rest, 1⟩

/-! ## Strings -/

def hexDigit? (c : Char) : Option Nat :=
  if '0' ≤ c ∧ c ≤ '9' then some (c.toNat - '0'.toNat)
  else if 'a' ≤ c ∧ c ≤ 'f' then some (c.toNat - 'a'.toNat + 10)
  else if 'A' ≤ c ∧ c ≤ 'F' then some (c.toNat - 'A'.toNat + 10)
  else none

def hex4 (text : List Char) : Except Stop (Nat × Shorter text) :=
  match text with
  | a :: b :: c :: d :: rest =>
    match hexDigit? a, hexDigit? b, hexDigit? c, hexDigit? d with
    | some a', some b', some c', some d' =>
      .ok (((a' * 16 + b') * 16 + c') * 16 + d', ⟨rest, by simp only [List.length_cons]; omega⟩)
    | _, _, _, _ => .error ⟨.malformedEscape, text, 4⟩
  | short =>
    if Text.Utf8.byteLength short < 4 then .error ⟨.unfinishedString, [], 0⟩
    else .error ⟨.malformedEscape, text, 4⟩

/-- Take one given character of a second escape of a surrogate pair. -/
def pairChar (expected : Char) (text : List Char) : Except Stop (Shorter text) :=
  match text with
  | [] => .error ⟨.unfinishedString, [], 0⟩
  | c :: rest =>
    if c = expected then .ok ⟨rest, Nat.lt_succ_self _⟩
    else .error ⟨.unfinishedSurrogatePair, c :: rest, 1⟩

/-- Read the code point of an escape after `\u`: four digits, or two halves of a pair. -/
def codePoint (text : List Char) : Except Stop (Char × Shorter text) := do
  let (first, ⟨rest, h⟩) ← hex4 text
  if 0xDC00 ≤ first ∧ first ≤ 0xDFFF then throw ⟨.unpairedSurrogate, rest, 0⟩
  else if 0xD800 ≤ first ∧ first ≤ 0xDBFF then
    let ⟨rest, h'⟩ ← pairChar '\\' rest
    let ⟨rest, h''⟩ ← pairChar 'u' rest
    let (second, ⟨rest, h'''⟩) ← hex4 rest
    if 0xDC00 ≤ second ∧ second ≤ 0xDFFF then
      return (Char.ofNat (0x10000 + (first - 0xD800) * 0x400 + (second - 0xDC00)),
        ⟨rest, by omega⟩)
    else throw ⟨.unpairedSurrogate, rest, 0⟩
  else return (Char.ofNat first, ⟨rest, h⟩)

/-- Read an escape after its backslash. -/
def escape (text : List Char) : Except Stop (Char × Shorter text) :=
  match text with
  | [] => .error ⟨.unfinishedString, [], 0⟩
  | c :: rest =>
    let plain := fun d : Char => (.ok (d, ⟨rest, Nat.lt_succ_self _⟩) : Except Stop (Char × _))
    match c with
    | '"' => plain '"'
    | '\\' => plain '\\'
    | '/' => plain '/'
    | 'b' => plain '\x08'
    | 'f' => plain '\x0c'
    | 'n' => plain '\n'
    | 'r' => plain '\r'
    | 't' => plain '\t'
    | 'u' => (codePoint rest).map fun read => (read.1, ⟨read.2.1, Nat.lt_succ_of_lt read.2.2⟩)
    | _ => .error ⟨.malformedEscape, c :: rest, 1⟩

/-- Read the characters of a string up to its closing quote; `read` holds those before, reversed. -/
def stringBody (bound : Nat) (read : List Char) (text : List Char) (h : text.length ≤ bound) :
    Except Stop (String × Within bound) :=
  match text with
  | [] => .error ⟨.unfinishedString, [], 0⟩
  | c :: rest =>
    have hrest : rest.length ≤ bound := Nat.le_of_succ_le h
    if c = '"' then .ok (String.ofList read.reverse, ⟨rest, hrest⟩)
    else if c = '\\' then
      match escape rest with
      | .error stop => .error stop
      | .ok (d, ⟨after, hafter⟩) =>
        stringBody bound (d :: read) after (Nat.le_trans (Nat.le_of_lt hafter) hrest)
    else if c.toNat < 0x20 then .error ⟨.controlInString, c :: rest, 1⟩
    else stringBody bound (c :: read) rest hrest
termination_by text.length
decreasing_by
  · simp only [List.length_cons]; omega
  · simp

/-! ## Values -/

mutual

/-- Read a value in which lists and objects are nested less than `depth` levels. -/
def value (depth : Nat) (text : List Char) : Except Stop (Json × Shorter text) :=
  match next? text with
  | none => .error ⟨.unfinishedValue, [], 1⟩
  | some (c, ⟨rest, hrest⟩) =>
    let constant := fun (expected : List Char) (result : Json) =>
      (word expected rest).map fun after =>
        ((result, ⟨after.1, Nat.lt_of_le_of_lt after.2 hrest⟩) : Json × Shorter text)
    match c with
    | 'n' => constant ['u', 'l', 'l'] .null
    | 't' => constant ['r', 'u', 'e'] (.bool true)
    | 'f' => constant ['a', 'l', 's', 'e'] (.bool false)
    | '-' => (unsigned true rest).map fun read =>
        (.num read.1, ⟨read.2.1, Nat.lt_trans read.2.2 hrest⟩)
    | '"' => (stringBody rest.length [] rest (Nat.le_refl _)).map fun read =>
        (.str read.1, ⟨read.2.1, Nat.lt_of_le_of_lt read.2.2 hrest⟩)
    | '[' =>
      if depth ≤ 1 then .error ⟨.nestedTooDeep, c :: rest, 1⟩
      else match next? rest with
        | none => .error ⟨.unfinishedList, [], 1⟩
        | some (']', after) => .ok (.arr [], ⟨after.1, Nat.lt_trans after.2 hrest⟩)
        | some _ => (items (depth - 1) rest.length [] rest (Nat.le_refl _)).map fun read =>
            (.arr read.1, ⟨read.2.1, Nat.lt_of_le_of_lt read.2.2 hrest⟩)
    | '{' =>
      if depth ≤ 1 then .error ⟨.nestedTooDeep, c :: rest, 1⟩
      else match next? rest with
        | none => .error ⟨.unfinishedObject, [], 1⟩
        | some ('}', after) => .ok (.obj [], ⟨after.1, Nat.lt_trans after.2 hrest⟩)
        | some ('"', ⟨after, hafter⟩) =>
          (members (depth - 1) after.length [] after (Nat.le_refl _)).map fun read =>
            (ofFields read.1,
              ⟨read.2.1, Nat.lt_of_le_of_lt read.2.2 (Nat.lt_trans hafter hrest)⟩)
        | some (other, after) => .error ⟨.nameNotString, other :: after.1, 1⟩
    | _ =>
      if c.isDigit then
        (unsigned false (c :: rest)).map fun read =>
          (.num read.1, ⟨read.2.1, Nat.lt_of_lt_of_le read.2.2 hrest⟩)
      else .error ⟨.valueExpected, c :: rest, 1⟩
termination_by 2 * text.length
decreasing_by
  · omega
  · omega

/-- Read the items of a list from the first or next one on; `read` holds those before, reversed. -/
def items (depth bound : Nat) (read : List Json) (text : List Char) (h : text.length ≤ bound) :
    Except Stop (List Json × Within bound) :=
  match value depth text with
  | .error stop => .error stop
  | .ok (item, ⟨rest, hrest⟩) =>
    match next? rest with
    | none => .error ⟨.unfinishedList, [], 1⟩
    | some (']', ⟨after, hafter⟩) => .ok ((item :: read).reverse, ⟨after, by omega⟩)
    | some (',', ⟨after, hafter⟩) =>
      match next? after with
      | none => .error ⟨.unfinishedValue, [], 1⟩
      | some (']', inner) => .error ⟨.trailingComma, ']' :: inner.1, 1⟩
      | some _ => items depth bound (item :: read) after (by omega)
    | some (other, after) => .error ⟨.commaOrListEndExpected, other :: after.1, 1⟩
termination_by 2 * text.length + 1
decreasing_by
  · omega
  · omega

/-- Read the fields of an object from the name of the first or next one on, after its opening quote;
`read` holds the fields before, reversed. -/
def members (depth bound : Nat) (read : List (String × Json)) (text : List Char)
    (h : text.length ≤ bound) : Except Stop (List (String × Json) × Within bound) :=
  match stringBody text.length [] text (Nat.le_refl _) with
  | .error stop => .error stop
  | .ok (name, ⟨rest, hrest⟩) =>
    match next? rest with
    | none => .error ⟨.unfinishedObject, [], 1⟩
    | some (':', ⟨afterName, hname⟩) =>
      match value depth afterName with
      | .error stop => .error stop
      | .ok (item, ⟨afterItem, hitem⟩) =>
        match next? afterItem with
        | none => .error ⟨.unfinishedObject, [], 1⟩
        | some ('}', ⟨after, hafter⟩) => .ok (((name, item) :: read).reverse, ⟨after, by omega⟩)
        | some (',', ⟨after, hafter⟩) =>
          match next? after with
          | none => .error ⟨.unfinishedValue, [], 1⟩
          | some ('"', ⟨inner, hinner⟩) =>
            members depth bound ((name, item) :: read) inner (by omega)
          | some ('}', inner) => .error ⟨.trailingComma, '}' :: inner.1, 1⟩
          | some (other, inner) => .error ⟨.nameNotString, other :: inner.1, 1⟩
        | some (other, after) => .error ⟨.commaOrObjectEndExpected, other :: after.1, 1⟩
    | some (other, after) => .error ⟨.colonExpected, other :: after.1, 1⟩
termination_by 2 * text.length + 1
decreasing_by
  · omega
  · omega

end

/-- Read a text that is one value, nested less than `depth` levels. -/
def document (depth : Nat) (text : List Char) : Except Stop Json := do
  let (result, ⟨rest, _⟩) ← value depth text
  match next? rest with
  | none => return result
  | some (other, after) => throw ⟨.trailingText, other :: after.1, 1⟩

end Transcript.Json.Reader

namespace Transcript.Json

/-- The value of a JSON text in which lists and objects are nested less than `depth` levels. -/
def parseNested (depth : Nat) (text : String) : Except SyntaxError Json :=
  (Reader.document depth text.toList).mapError fun stop => stop.locate text.toList

/-- The value of a JSON text, with at most 127 lists and objects inside one another. -/
def parse (text : String) : Except SyntaxError Json :=
  parseNested 128 text

end Transcript.Json
