/-! # Runs of decimal digits

What the readers of numbers and timestamps share: they take the digits at the front of a text and
fold them to their value. A text `ds ++ rest` is cut after `ds` if `rest` does not go on with a
digit (`NoDigit`).
-/

namespace Transcript.Text

def NoDigit (text : List Char) : Prop := ∀ c ∈ text.head?, c.isDigit = false

theorem noDigit_nil : NoDigit [] := nofun

theorem noDigit_take {text : List Char} (h : NoDigit text) (n : Nat) : NoDigit (text.take n) := by
  cases text with
  | nil => simpa using h
  | cons c rest =>
    cases n with
    | zero => exact noDigit_nil
    | succ n => exact h

theorem noDigit_cons {c : Char} (h : c.isDigit = false) (rest : List Char) :
    NoDigit (c :: rest) := by
  simpa [NoDigit] using h

theorem isDigit_of_mem_toDigits {n : Nat} {c : Char} (h : c ∈ Nat.toDigits 10 n) :
    c.isDigit = true :=
  Nat.isDigit_of_mem_toDigits (by decide) (by decide) h

theorem takeWhile_isDigit {ds rest : List Char} (digits : ∀ c ∈ ds, c.isDigit = true)
    (ends : NoDigit rest) : (ds ++ rest).takeWhile Char.isDigit = ds := by
  rw [List.takeWhile_append_of_pos digits]
  cases rest with
  | nil => simp
  | cons c rest => simp [ends c rfl]

theorem dropWhile_isDigit {ds rest : List Char} (digits : ∀ c ∈ ds, c.isDigit = true)
    (ends : NoDigit rest) : (ds ++ rest).dropWhile Char.isDigit = rest := by
  rw [List.dropWhile_append_of_pos digits]
  cases rest with
  | nil => rfl
  | cons c rest => simp [ends c rfl]

/-- The value of digits after those of `high`. -/
theorem foldl_digits (high : Nat) (ds : List Char) :
    ds.foldl (fun n c => n * 10 + (c.toNat - '0'.toNat)) high = Nat.ofDigitChars 10 ds high := by
  simp [Nat.ofDigitChars_eq_foldl, Nat.mul_comm]

/-- A number other than zero is written without zeros in front. -/
theorem head_toDigits_ne_zero {n : Nat} (positive : n ≠ 0) :
    (Nat.toDigits 10 n).head? ≠ some '0' := by
  induction n using Nat.strongRecOn with
  | _ n ih =>
    rw [Nat.toDigits_eq_if (by decide)]
    split
    · next small => simp [Nat.digitChar_eq_zero, positive]
    · next large =>
      have some_digit : Nat.toDigits 10 (n / 10) ≠ [] := Nat.toDigits_ne_nil
      have first := ih (n / 10) (by omega) (by omega)
      cases h : Nat.toDigits 10 (n / 10) with
      | nil => exact absurd h some_digit
      | cons c rest => simpa [h] using first

end Transcript.Text
