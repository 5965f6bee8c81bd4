import Transcript.Numeric.Binary64

/-! # JSON values

A number is an integer or a double, as its text says. An object is a list of named fields. Objects
that were read hold each name once, in increasing order (`Json.ofFields`), so that two texts with
the same fields give the same value; objects made to be written hold their fields in the order in
which they are to be written.
-/

namespace Transcript

/-- A number of a JSON text: an integer of at most 64 bits, or a double. -/
inductive Json.Number where
  | int (value : Int)
  | float (value : Binary64)
deriving DecidableEq, Repr

inductive Json where
  | null
  | bool (value : Bool)
  | num (value : Json.Number)
  | str (value : String)
  | arr (items : List Json)
  | obj (fields : List (String × Json))
deriving Repr, Inhabited

namespace Json

mutual

/-- Equality of values is decided field by field, in order. -/
def decEq : (a b : Json) → Decidable (a = b)
  | .null, b => match b with
    | .null => isTrue rfl
    | .bool _ | .num _ | .str _ | .arr _ | .obj _ => isFalse nofun
  | .bool x, b => match b with
    | .bool y => if h : x = y then isTrue (h ▸ rfl) else isFalse (fun e => h (by injection e))
    | .null | .num _ | .str _ | .arr _ | .obj _ => isFalse nofun
  | .num x, b => match b with
    | .num y => if h : x = y then isTrue (h ▸ rfl) else isFalse (fun e => h (by injection e))
    | .null | .bool _ | .str _ | .arr _ | .obj _ => isFalse nofun
  | .str x, b => match b with
    | .str y => if h : x = y then isTrue (h ▸ rfl) else isFalse (fun e => h (by injection e))
    | .null | .bool _ | .num _ | .arr _ | .obj _ => isFalse nofun
  | .arr xs, b => match b with
    | .arr ys => match decEqItems xs ys with
      | isTrue h => isTrue (h ▸ rfl)
      | isFalse h => isFalse (fun e => h (by injection e))
    | .null | .bool _ | .num _ | .str _ | .obj _ => isFalse nofun
  | .obj xs, b => match b with
    | .obj ys => match decEqFields xs ys with
      | isTrue h => isTrue (h ▸ rfl)
      | isFalse h => isFalse (fun e => h (by injection e))
    | .null | .bool _ | .num _ | .str _ | .arr _ => isFalse nofun

def decEqItems : (xs ys : List Json) → Decidable (xs = ys)
  | [], ys => match ys with
    | [] => isTrue rfl
    | _ :: _ => isFalse nofun
  | x :: xs, ys => match ys with
    | [] => isFalse nofun
    | y :: ys => match decEq x y, decEqItems xs ys with
      | isTrue h, isTrue h' => isTrue (h ▸ h' ▸ rfl)
      | isFalse h, _ => isFalse (fun e => h (by injection e))
      | _, isFalse h => isFalse (fun e => h (by injection e))

def decEqFields : (xs ys : List (String × Json)) → Decidable (xs = ys)
  | [], ys => match ys with
    | [] => isTrue rfl
    | _ :: _ => isFalse nofun
  | x :: xs, ys => match ys with
    | [] => isFalse nofun
    | y :: ys => match decEqField x y, decEqFields xs ys with
      | isTrue h, isTrue h' => isTrue (h ▸ h' ▸ rfl)
      | isFalse h, _ => isFalse (fun e => h (by injection e))
      | _, isFalse h => isFalse (fun e => h (by injection e))

def decEqField : (x y : String × Json) → Decidable (x = y)
  | (k, v), (l, w) =>
    if h : k = l then
      match decEq v w with
      | isTrue h' => isTrue (h ▸ h' ▸ rfl)
      | isFalse h' => isFalse (fun e => h' (by injection e))
    else isFalse (fun e => h (by injection e))

end

instance : DecidableEq Json := decEq

/-- The value of a field of a list of fields, the first one of that name. -/
def lookup (name : String) : List (String × Json) → Option Json
  | [] => none
  | (k, v) :: rest => if k = name then some v else lookup name rest

/-- The fields with one more, in its place by name, instead of an earlier one of the same name. -/
def insertField (name : String) (value : Json) : List (String × Json) → List (String × Json)
  | [] => [(name, value)]
  | (k, v) :: rest =>
    if name < k then (name, value) :: (k, v) :: rest
    else if k = name then (name, value) :: rest
    else (k, v) :: insertField name value rest

/-- The object with the given fields: names in increasing order of code points, each once, with the
last of the values given for it. -/
def ofFields (fields : List (String × Json)) : Json :=
  .obj (fields.foldl (fun sorted field => insertField field.1 field.2 sorted) [])

/-- The value of a field, if this is an object that has it. -/
def field? (name : String) : Json → Option Json
  | .obj fields => lookup name fields
  | _ => none

def string? : Json → Option String
  | .str s => some s
  | _ => none

def bool? : Json → Option Bool
  | .bool b => some b
  | _ => none

def items? : Json → Option (List Json)
  | .arr items => some items
  | _ => none

def fields? : Json → Option (List (String × Json))
  | .obj fields => some fields
  | _ => none

/-- The double nearest to a number, if this is one. -/
def double? : Json → Option Binary64
  | .num (.float x) => some x
  | .num (.int n) => Binary64.ofInt? n
  | _ => none

def ofNat (n : Nat) : Json := .num (.int n)

/-- `null` for nothing, and the value otherwise. -/
def ofOption {α : Type} (toJson : α → Json) : Option α → Json
  | none => .null
  | some a => toJson a

/-- A field that is left out where there is nothing to write. -/
def optionalField {α : Type} (name : String) (toJson : α → Json) :
    Option α → List (String × Json)
  | none => []
  | some a => [(name, toJson a)]

@[simp] theorem lookup_nil (name : String) : lookup name [] = none := rfl

@[simp] theorem lookup_insertField_self (name : String) (value : Json)
    (fields : List (String × Json)) :
    lookup name (insertField name value fields) = some value := by
  induction fields with
  | nil => simp [insertField, lookup]
  | cons field rest ih =>
    obtain ⟨k, v⟩ := field
    unfold insertField
    split
    · simp [lookup]
    · split
      · simp [lookup]
      · next h => simp [lookup, h, ih]

theorem lookup_insertField_of_ne {name other : String} (h : other ≠ name) (value : Json)
    (fields : List (String × Json)) :
    lookup name (insertField other value fields) = lookup name fields := by
  induction fields with
  | nil => simp [insertField, lookup, h]
  | cons field rest ih =>
    obtain ⟨k, v⟩ := field
    unfold insertField
    split
    · simp [lookup, h]
    · split
      · next same => subst same; simp [lookup, h]
      · simp only [lookup, ih]

end Json

end Transcript
