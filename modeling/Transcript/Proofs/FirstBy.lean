import Mathlib.Data.List.Induction

/-! # Keeping the first element of every key

`firstBy` leaves out every element whose key an earlier element has. It is how a log reads that
drops second deliveries, and how a request reads whose calls repeat an id. `firstBy_concat` says what
one more element at the end does; the keys that are left are distinct and the same as before.
-/

namespace Transcript

variable {α κ : Type} [DecidableEq κ]

/-- The elements whose key no earlier element has; one without a key always stays. -/
def firstBy (key : α → Option κ) : List α → List α
  | [] => []
  | x :: rest => x :: (firstBy key rest).filter fun y => (key y).isNone || key y ≠ key x

/-- Whether the key of an element is one of the keys of a list. -/
def repeats (key : α → Option κ) (xs : List α) (x : α) : Bool :=
  (key x).any fun k => k ∈ xs.filterMap key

theorem repeats_iff (key : α → Option κ) (xs : List α) (x : α) :
    repeats key xs x = true ↔ ∃ k, key x = some k ∧ k ∈ xs.filterMap key := by
  cases known : key x <;> simp [repeats, known]

theorem repeats_cons (key : α → Option κ) (a : α) (xs : List α) (x : α) :
    repeats key (a :: xs) x = ((key x).isSome && key x = key a || repeats key xs x) := by
  cases known : key x with
  | none => simp [repeats, known]
  | some k => cases head : key a <;> simp [repeats, known, head]

/-- One more element stays unless its key is there already. -/
theorem firstBy_concat (key : α → Option κ) (xs : List α) (x : α) :
    firstBy key (xs ++ [x]) =
      if repeats key xs x then firstBy key xs else firstBy key xs ++ [x] := by
  induction xs with
  | nil => cases known : key x <;> simp [firstBy, repeats, known]
  | cons a rest ih =>
    simp only [List.cons_append, firstBy, ih, repeats_cons]
    by_cases later : repeats key rest x
    · simp [later]
    · cases known : key x with
      | none => simp [later, known]
      | some k => by_cases same : key a = some k <;> simp [later, known, same, eq_comm]

/-- No two elements that are left share a key. -/
theorem nodup_firstBy (key : α → Option κ) (xs : List α) :
    ((firstBy key xs).filterMap key).Nodup := by
  induction xs with
  | nil => exact .nil
  | cons a rest ih =>
    have unique : (((firstBy key rest).filter fun y =>
        (key y).isNone || key y ≠ key a).filterMap key).Nodup :=
      ih.sublist (List.filter_sublist.filterMap key)
    cases head : key a with
    | none => simpa [firstBy, head] using unique
    | some k =>
      simp only [firstBy, List.filterMap_cons, head, List.nodup_cons]
      refine ⟨?_, by simpa only [head] using unique⟩
      intro member
      obtain ⟨y, kept, same⟩ := List.mem_filterMap.mp member
      simp [same] at kept

/-- Where no key comes twice, every element stays. -/
theorem firstBy_of_nodup {key : α → Option κ} {xs : List α} (distinct : (xs.filterMap key).Nodup) :
    firstBy key xs = xs := by
  induction xs using List.reverseRecOn with
  | nil => rfl
  | append_singleton rest x ih =>
    rw [List.filterMap_append, List.nodup_append] at distinct
    obtain ⟨before, -, apart⟩ := distinct
    have new : ¬ repeats key rest x = true := by
      rw [repeats_iff]
      rintro ⟨k, here, there⟩
      exact apart k there k (by simp [here]) rfl
    rw [firstBy_concat, if_neg new, ih before]

/-- What the elements are made into stays where they do. -/
theorem firstBy_map {β : Type} (key : β → Option κ) (f : α → β) (xs : List α) :
    firstBy key (xs.map f) = (firstBy (fun x => key (f x)) xs).map f := by
  induction xs with
  | nil => rfl
  | cons x rest ih => rw [List.map_cons, firstBy, firstBy, List.map_cons, ih, List.filter_map]; rfl

/-- An element that repeats a key brings no new one. -/
theorem mem_filterMap_of_repeats {key : α → Option κ} {xs : List α} {x : α}
    (known : repeats key xs x = true) (k : κ) :
    k ∈ (xs ++ [x]).filterMap key ↔ k ∈ xs.filterMap key := by
  obtain ⟨k', here, there⟩ := (repeats_iff key xs x).mp known
  rw [List.filterMap_append, List.mem_append]
  constructor
  · rintro (before | last)
    · exact before
    · obtain rfl : k = k' := by simpa [here] using last
      exact there
  · exact .inl

/-- Every key still has an element. -/
theorem mem_filterMap_firstBy (key : α → Option κ) (xs : List α) (k : κ) :
    k ∈ (firstBy key xs).filterMap key ↔ k ∈ xs.filterMap key := by
  induction xs using List.reverseRecOn with
  | nil => rfl
  | append_singleton rest x ih =>
    rw [firstBy_concat]
    split
    · next known => rw [ih, mem_filterMap_of_repeats known]
    · simp only [List.filterMap_append, List.mem_append, ih]

end Transcript
