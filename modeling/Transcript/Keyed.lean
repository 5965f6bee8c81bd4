/-! # Values under keys

A small map that remembers the order in which its keys were first given a value. Setting the value
of a key that is there leaves the order alone; erasing a key and setting it again puts it last.
-/

namespace Transcript

/-- Values under keys, each key once, in the order in which the keys were first set. -/
@[ext]
structure Keyed (κ α : Type) where
  entries : List (κ × α)
  distinct : (entries.map Prod.fst).Nodup
deriving DecidableEq, Repr

namespace Keyed

variable {κ α : Type} [DecidableEq κ]

def empty : Keyed κ α := ⟨[], .nil⟩

instance : EmptyCollection (Keyed κ α) := ⟨empty⟩

instance : Inhabited (Keyed κ α) := ⟨empty⟩

def keys (m : Keyed κ α) : List κ := m.entries.map Prod.fst

def values (m : Keyed κ α) : List α := m.entries.map Prod.snd

def find? (key : κ) : List (κ × α) → Option α
  | [] => none
  | (k, a) :: rest => if k = key then some a else find? key rest

def get? (m : Keyed κ α) (key : κ) : Option α := find? key m.entries

/-- A list of entries with a value for a key, in place of an earlier value or else at the end. -/
def put (key : κ) (value : α) : List (κ × α) → List (κ × α)
  | [] => [(key, value)]
  | (k, a) :: rest => if k = key then (key, value) :: rest else (k, a) :: put key value rest

theorem keys_put (key : κ) (value : α) (entries : List (κ × α)) :
    (put key value entries).map Prod.fst =
      if key ∈ entries.map Prod.fst then entries.map Prod.fst
      else entries.map Prod.fst ++ [key] := by
  induction entries with
  | nil => simp [put]
  | cons entry rest ih =>
    obtain ⟨k, a⟩ := entry
    unfold put
    by_cases h : k = key
    · simp [h]
    · by_cases later : key ∈ rest.map Prod.fst
      · simp only [if_neg h, List.map_cons, ih, List.mem_cons, later, or_true,
          if_true]
      · simp only [if_neg h, List.map_cons, ih, List.mem_cons, Ne.symm h, later,
          or_self, if_false, List.cons_append]

theorem distinct_put {entries : List (κ × α)} (distinct : (entries.map Prod.fst).Nodup) (key : κ)
    (value : α) : ((put key value entries).map Prod.fst).Nodup := by
  rw [keys_put]
  split
  · exact distinct
  · next new =>
    refine List.nodup_append.mpr ⟨distinct, by simp, ?_⟩
    intro other member _ last same
    rw [List.mem_singleton.mp last] at same
    exact new (same ▸ member)

def set (m : Keyed κ α) (key : κ) (value : α) : Keyed κ α :=
  ⟨put key value m.entries, distinct_put m.distinct key value⟩

def erase (m : Keyed κ α) (key : κ) : Keyed κ α :=
  ⟨m.entries.eraseP fun entry => entry.1 = key, m.distinct.sublist (List.eraseP_sublist.map _)⟩

theorem find?_put_self (key : κ) (value : α) (entries : List (κ × α)) :
    find? key (put key value entries) = some value := by
  induction entries with
  | nil => simp [put, find?]
  | cons entry rest ih =>
    obtain ⟨k, a⟩ := entry
    unfold put
    split
    · simp [find?]
    · next other => simp [find?, other, ih]

theorem find?_put_of_ne {key other : κ} (h : other ≠ key) (value : α) (entries : List (κ × α)) :
    find? key (put other value entries) = find? key entries := by
  induction entries with
  | nil => simp [put, find?, h]
  | cons entry rest ih =>
    obtain ⟨k, a⟩ := entry
    unfold put
    split
    · next same => subst same; simp [find?, h]
    · simp only [find?, ih]

@[simp] theorem get?_set_self (m : Keyed κ α) (key : κ) (value : α) :
    (m.set key value).get? key = some value :=
  find?_put_self key value m.entries

theorem get?_set_of_ne (m : Keyed κ α) {key other : κ} (h : other ≠ key) (value : α) :
    (m.set other value).get? key = m.get? key :=
  find?_put_of_ne h value m.entries

theorem find?_eq_none {key : κ} {entries : List (κ × α)} (absent : key ∉ entries.map Prod.fst) :
    find? key entries = none := by
  induction entries with
  | nil => rfl
  | cons entry rest ih =>
    simp only [List.map_cons, List.mem_cons, not_or] at absent
    rw [find?, if_neg (Ne.symm absent.1), ih absent.2]

theorem get?_eq_none {m : Keyed κ α} {key : κ} (absent : key ∉ m.keys) : m.get? key = none :=
  find?_eq_none absent

theorem find?_eraseP_self {entries : List (κ × α)} (distinct : (entries.map Prod.fst).Nodup)
    (key : κ) : find? key (entries.eraseP fun entry => entry.1 = key) = none := by
  induction entries with
  | nil => rfl
  | cons entry rest ih =>
    obtain ⟨absent, distinct⟩ := List.nodup_cons.mp distinct
    by_cases here : entry.1 = key
    · simpa [List.eraseP_cons, here] using find?_eq_none (here ▸ absent)
    · simpa [List.eraseP_cons, here, find?] using ih distinct

theorem find?_eraseP_of_ne {key other : κ} (h : other ≠ key) (entries : List (κ × α)) :
    find? key (entries.eraseP fun entry => entry.1 = other) = find? key entries := by
  induction entries with
  | nil => rfl
  | cons entry rest ih =>
    obtain ⟨k, a⟩ := entry
    by_cases same : k = other
    · subst same
      simp [find?, h]
    · simp [same, find?, ih]

@[simp] theorem get?_erase_self (m : Keyed κ α) (key : κ) : (m.erase key).get? key = none :=
  find?_eraseP_self m.distinct key

theorem get?_erase_of_ne (m : Keyed κ α) {key other : κ} (h : other ≠ key) :
    (m.erase other).get? key = m.get? key :=
  find?_eraseP_of_ne h m.entries

/-- Setting keeps the order of the keys and puts a new key last. -/
theorem keys_set (m : Keyed κ α) (key : κ) (value : α) :
    (m.set key value).keys = if key ∈ m.keys then m.keys else m.keys ++ [key] :=
  keys_put key value m.entries

end Keyed

end Transcript
