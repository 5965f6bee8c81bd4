import Transcript.Json.Shape

/-! # Values as a reader gives them

A value made to be written holds the fields of an object in the order in which they are to be
written. `Json.sorted` is the value that a reader makes of the same fields: inside every object each
name once and in order, with the last of the values given for it. A value with `v.sorted = v` is one
that can have been read.

Only `lookup` asks what an object holds, so `exists_sorted_obj` says all that a decoder can find out
about a sorted object: a name has the sorted value of the last field of that name.
-/

namespace Transcript.Json

mutual

/-- The value with the fields of every object sorted by name. -/
def sorted : Json → Json
  | .null => .null
  | .bool b => .bool b
  | .num n => .num n
  | .str s => .str s
  | .arr items => .arr (sortedItems items)
  | .obj fields => ofFields (sortedFields fields)

def sortedItems : List Json → List Json
  | [] => []
  | item :: rest => sorted item :: sortedItems rest

/-- The fields of an object with their values sorted, still in the order given. -/
def sortedFields : List (String × Json) → List (String × Json)
  | [] => []
  | field :: rest => sortedField field :: sortedFields rest

def sortedField : String × Json → String × Json
  | (name, value) => (name, sorted value)

end

theorem sortedItems_eq_map (items : List Json) : sortedItems items = items.map sorted := by
  induction items with
  | nil => rfl
  | cons item rest ih => simp [sortedItems, ih]

theorem sortedFields_eq_map (fields : List (String × Json)) :
    sortedFields fields = fields.map sortedField := by
  induction fields with
  | nil => rfl
  | cons field rest ih => simp [sortedFields, ih]

@[simp] theorem sorted_str (s : String) : (Json.str s).sorted = .str s := by
  simp [sorted]

@[simp] theorem sorted_bool (b : Bool) : (Json.bool b).sorted = .bool b := by
  simp [sorted]

@[simp] theorem sorted_num (n : Number) : (Json.num n).sorted = .num n := by
  simp [sorted]

@[simp] theorem sorted_arr (items : List Json) :
    (Json.arr items).sorted = .arr (items.map sorted) := by
  simp [sorted, sortedItems_eq_map]

theorem sorted_obj (fields : List (String × Json)) :
    (Json.obj fields).sorted = ofFields (fields.map sortedField) := by
  simp [sorted, sortedFields_eq_map]

/-! ## Looking up a name -/

@[simp] theorem lookup_append (name : String) (front back : List (String × Json)) :
    lookup name (front ++ back) = (lookup name front).or (lookup name back) := by
  induction front with
  | nil => simp
  | cons field rest ih =>
    obtain ⟨k, v⟩ := field
    by_cases same : k = name <;> simp [lookup, same, ih]

theorem lookup_map_sortedField (name : String) (fields : List (String × Json)) :
    lookup name (fields.map sortedField) = (lookup name fields).map sorted := by
  induction fields with
  | nil => rfl
  | cons field rest ih =>
    obtain ⟨k, v⟩ := field
    by_cases same : k = name <;> simp [lookup, sortedField, same, ih]

@[simp] theorem lookup_optionalField {α : Type} (name other : String) (toJson : α → Json)
    (a : Option α) :
    lookup name (optionalField other toJson a) = if other = name then a.map toJson else none := by
  cases a <;> simp [optionalField, lookup]

@[simp] theorem reverse_optionalField {α : Type} (name : String) (toJson : α → Json)
    (a : Option α) : (optionalField name toJson a).reverse = optionalField name toJson a := by
  cases a <;> rfl

/-- Of the fields of one name it is the last one that counts. -/
theorem lookup_foldl_insertField (name : String) (fields sorted : List (String × Json)) :
    lookup name (fields.foldl (fun sorted field => insertField field.1 field.2 sorted) sorted) =
      (lookup name fields.reverse).or (lookup name sorted) := by
  induction fields generalizing sorted with
  | nil => simp
  | cons field rest ih =>
    obtain ⟨k, v⟩ := field
    rw [List.foldl_cons, ih, List.reverse_cons, lookup_append]
    by_cases same : k = name
    · subst same
      cases lookup k rest.reverse <;> simp [lookup]
    · cases lookup name rest.reverse <;> simp [lookup, same, lookup_insertField_of_ne same]

/-- What a decoder can find out about a sorted object. -/
theorem exists_sorted_obj (fields : List (String × Json)) :
    ∃ inner, (Json.obj fields).sorted = .obj inner ∧
      ∀ name, lookup name inner = (lookup name fields.reverse).map sorted := by
  refine ⟨_, sorted_obj fields, fun name => ?_⟩
  rw [lookup_foldl_insertField, ← List.map_reverse, lookup_map_sortedField]
  simp

end Transcript.Json
