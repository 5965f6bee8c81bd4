import Mathlib.Algebra.GroupWithZero.Nat
import Transcript.Proofs.Text.Digits
import Transcript.Time.Timestamp

/-! # Timestamps are read back

The text of a timestamp is made of numbers of a fixed width with one character between them. Each
number is read by `Reader.number`, which stops at its width or at the character behind it
(`number_padded`, `number_digits`); so the reader finds the parts one by one, and an offset of
nothing at the end (`read_text`).
-/

namespace Transcript

namespace Date

/-- The characters of a number with zeros in front. -/
theorem toList_padded (width n : Nat) : (padded width n).toList =
    List.replicate (width - (Nat.toDigits 10 n).length) '0' ++ Nat.toDigits 10 n := by
  simp only [padded, Nat.toString_eq_ofList_toDigits, String.toList_append, String.toList_ofList,
    String.length_ofList]

theorem isDigit_of_mem_padded {width n : Nat} {c : Char} (member : c ∈ (padded width n).toList) :
    c.isDigit = true := by
  rw [toList_padded] at member
  rcases List.mem_append.mp member with zero | digit
  · rw [List.eq_of_mem_replicate zero]; rfl
  · exact Text.isDigit_of_mem_toDigits digit

theorem value_padded (width n : Nat) : Nat.ofDigitChars 10 (padded width n).toList 0 = n := by
  simp [toList_padded, Nat.ofDigitChars_append]

/-- A number that fits the width is written with exactly that many digits. -/
theorem length_padded {width n : Nat} (positive : 0 < width) (fits : n < 10 ^ width) :
    (padded width n).toList.length = width := by
  have short := (Nat.length_toDigits_le_iff (b := 10) (by decide) positive).mpr fits
  rw [toList_padded, List.length_append, List.length_replicate]
  omega

theorem one_le_month (d : Date) : 1 ≤ d.month := by
  have days := d.day_mem
  unfold daysIn at days
  split at days <;> omega

theorem day_le (d : Date) : d.day ≤ 31 := by
  have days := d.day_mem
  unfold daysIn at days
  split at days
  case h_12 => split at days <;> omega
  all_goals omega

/-- A year as it is written, with its sign if four digits cannot write it. -/
def yearText (d : Date) : String :=
  if 0 ≤ d.year ∧ d.year ≤ 9999 then padded 4 d.year.natAbs
  else (if d.year < 0 then "-" else "+") ++ padded 4 d.year.natAbs

theorem text_eq (d : Date) :
    d.text = d.yearText ++ "-" ++ padded 2 d.month ++ "-" ++ padded 2 d.day := rfl

theorem padded_ne_nil (width n : Nat) : (padded width n).toList ≠ [] := by
  simp [toList_padded, Nat.toDigits_ne_nil]

end Date

namespace Timestamp.Reader

open Date (padded)
open Text (NoDigit)

/-- What the reader of a number takes: the digits at the front of its window. -/
theorem number_of_takeWhile {ds rest : List Char} {width : Option Nat} (nonempty : ds ≠ [])
    (digits : ∀ c ∈ ds, c.isDigit = true) (small : Nat.ofDigitChars 10 ds 0 < Nat.pow 2 63)
    (taken : ((width.map fun n => (ds ++ rest).take n).getD (ds ++ rest)).takeWhile Char.isDigit =
      ds) : number width (ds ++ rest) = .ok (Nat.ofDigitChars 10 ds 0, rest) := by
  obtain ⟨c, ds, rfl⟩ := List.exists_cons_of_ne_nil nonempty
  have isDigit : c.isDigit = true := digits c List.mem_cons_self
  rw [List.cons_append] at taken ⊢
  cases width <;>
  · simp only [Option.map_some, Option.map_none, Option.getD_some, Option.getD_none] at taken
    simp only [number, taken, Text.foldl_digits, isDigit]
    rw [if_neg (by simp), if_neg (by omega)]
    simp

/-- Digits that end where the window of the reader ends. -/
theorem number_of_length {ds : List Char} {width : Nat} (rest : List Char) (positive : 0 < width)
    (digits : ∀ c ∈ ds, c.isDigit = true) (exact : ds.length = width)
    (small : Nat.ofDigitChars 10 ds 0 < Nat.pow 2 63) :
    number (some width) (ds ++ rest) = .ok (Nat.ofDigitChars 10 ds 0, rest) := by
  refine number_of_takeWhile (by rintro rfl; simp at exact; omega) digits small ?_
  rw [Option.map_some, Option.getD_some, ← exact, List.take_left]
  simpa using Text.takeWhile_isDigit digits Text.noDigit_nil

/-- Digits that end inside the window of the reader. -/
theorem number_of_noDigit {ds rest : List Char} {width : Option Nat} (nonempty : ds ≠ [])
    (digits : ∀ c ∈ ds, c.isDigit = true) (inside : ∀ n ∈ width, ds.length ≤ n)
    (ends : NoDigit rest) (small : Nat.ofDigitChars 10 ds 0 < Nat.pow 2 63) :
    number width (ds ++ rest) = .ok (Nat.ofDigitChars 10 ds 0, rest) := by
  refine number_of_takeWhile nonempty digits small ?_
  cases width with
  | none => exact Text.takeWhile_isDigit digits ends
  | some n =>
    rw [Option.map_some, Option.getD_some, List.take_append, List.take_of_length_le (inside n rfl)]
    exact Text.takeWhile_isDigit digits (Text.noDigit_take ends _)

/-! ## The parts of a timestamp -/

theorem isBlank_of_isDigit {c : Char} (digit : c.isDigit = true) : Text.isBlank c = false := by
  have range : 48 ≤ c.toNat ∧ c.toNat ≤ 57 := by
    simpa [Char.isDigit, UInt32.le_iff_toNat_le] using digit
  simp [Text.isBlank]
  omega

/-- A text that starts with a digit is not trimmed. -/
theorem trimStart_padded (width n : Nat) (rest : List Char) :
    Text.trimStart ((padded width n).toList ++ rest) = (padded width n).toList ++ rest := by
  obtain ⟨c, ds, shape⟩ := List.exists_cons_of_ne_nil (Date.padded_ne_nil width n)
  have digit : c.isDigit = true :=
    Date.isDigit_of_mem_padded (shape ▸ List.mem_cons_self : c ∈ (padded width n).toList)
  rw [shape, List.cons_append, Text.trimStart_cons_of_not_isBlank (isBlank_of_isDigit digit)]

theorem part_padded {least greatest n : Nat} (low : least ≤ n) (high : n ≤ greatest)
    (two : n < 100) (rest : List Char) :
    part least greatest ((padded 2 n).toList ++ rest) = .ok (n, rest) := by
  have read := number_of_length rest (by decide) (fun _ => Date.isDigit_of_mem_padded)
    (Date.length_padded (by decide) (show n < 10 ^ 2 by omega))
    (by rw [Date.value_padded, Nat.pow_eq]; omega)
  rw [Date.value_padded] at read
  simp [part, trimStart_padded, read, low, high, bind, Except.bind, pure, Except.pure]

theorem mark_cons {c : Char} (visible : Text.isBlank c = false) (rest : List Char) :
    mark c (c :: rest) = .ok rest := by
  simp [mark, Text.trimStart_cons_of_not_isBlank visible]

/-- A number that is in the range of years with its sign `f`. The sign is kept abstract: with the
number itself in its place, checking the proof would count up to the end of the range. -/
theorem signed_year {read : Except Fault (Nat × List Char)} {n : Nat} {rest : List Char}
    (f : Nat → Int) (ok : read = .ok (n, rest))
    (range : -2_147_483_648 ≤ f n ∧ f n < 2_147_483_648) :
    (do
      let (value, rest) ← read
      let (value, rest) ← pure (f value, rest)
      if -2_147_483_648 ≤ value ∧ value < 2_147_483_648 then return (value, rest)
      else throw .outOfRange) = (.ok (f n, rest) : Except Fault (Int × List Char)) := by
  subst ok
  exact if_pos range

/-- A year without a sign. -/
theorem year_padded {n : Nat} (four : n < 10 ^ 4) (rest : List Char) :
    year ((padded 4 n).toList ++ rest) = .ok (n, rest) := by
  have read := number_of_length rest (by decide) (fun _ => Date.isDigit_of_mem_padded)
    (Date.length_padded (by decide) four) (by rw [Date.value_padded, Nat.pow_eq]; omega)
  rw [Date.value_padded] at read
  obtain ⟨c, ds, shape⟩ := List.exists_cons_of_ne_nil (Date.padded_ne_nil 4 n)
  have digit : c.isDigit = true :=
    Date.isDigit_of_mem_padded (shape ▸ List.mem_cons_self : c ∈ (padded 4 n).toList)
  unfold year
  rw [trimStart_padded]
  split
  · next minus =>
    rw [shape, List.cons_append, List.cons.injEq] at minus
    exact absurd (minus.1 ▸ digit) (by decide)
  · next plus =>
    rw [shape, List.cons_append, List.cons.injEq] at plus
    exact absurd (plus.1 ▸ digit) (by decide)
  · exact signed_year (fun n => n) read ⟨by omega, by omega⟩

/-- The digits of a year after its sign. -/
theorem number_signed {n : Nat} (small : n < 1_000_000) (rest : List Char) :
    number none ((padded 4 n).toList ++ '-' :: rest) = .ok (n, '-' :: rest) := by
  have read := number_of_noDigit (Date.padded_ne_nil 4 n) (fun _ => Date.isDigit_of_mem_padded)
    (fun n none => absurd none (Option.not_mem_none n)) (Text.noDigit_cons (c := '-') rfl rest)
    (by rw [Date.value_padded, Nat.pow_eq]; omega)
  rwa [Date.value_padded] at read

theorem year_minus {n : Nat} (small : n < 1_000_000) (rest : List Char) :
    year ('-' :: ((padded 4 n).toList ++ '-' :: rest)) = .ok (-n, '-' :: rest) := by
  have visible : Text.isBlank '-' = false := by decide
  unfold year
  rw [Text.trimStart_cons_of_not_isBlank visible]
  exact signed_year (fun n => -n) (number_signed small rest) ⟨by omega, by omega⟩

theorem year_plus {n : Nat} (small : n < 1_000_000) (rest : List Char) :
    year ('+' :: ((padded 4 n).toList ++ '-' :: rest)) = .ok (n, '-' :: rest) := by
  have visible : Text.isBlank '+' = false := by decide
  unfold year
  rw [Text.trimStart_cons_of_not_isBlank visible]
  exact signed_year (fun n => n) (number_signed small rest) ⟨by omega, by omega⟩

theorem year_text (d : Date) (rest : List Char) :
    year (d.yearText.toList ++ '-' :: rest) = .ok (d.year, '-' :: rest) := by
  obtain ⟨low, high⟩ := d.year_mem
  simp only [Date.firstYear, Date.lastYear] at low high
  unfold Date.yearText
  split
  · rw [year_padded (by omega), show (d.year.natAbs : Int) = d.year by omega]
  · split
    · have minus := year_minus (n := d.year.natAbs) (by omega) rest
      rw [show -(d.year.natAbs : Int) = d.year by omega] at minus
      simpa using minus
    · have plus := year_plus (n := d.year.natAbs) (by omega) rest
      rw [show (d.year.natAbs : Int) = d.year by omega] at plus
      simpa using plus

/-- A fraction that is written with `width` digits. -/
theorem fraction_padded {width n : Nat} (positive : 0 < width) (short : width ≤ 9)
    (small : n < 10 ^ width) (rest : List Char) :
    fraction ('.' :: ((padded width n).toList ++ 'Z' :: rest)) =
      .ok (n * Nat.pow 10 (9 - width), 'Z' :: rest) := by
  have length := Date.length_padded positive small
  have bound : n < Nat.pow 2 63 := by
    have : 10 ^ width ≤ 10 ^ 9 := Nat.pow_le_pow_right (by decide) short
    rw [Nat.pow_eq]
    omega
  have inside : ∀ n' ∈ some 9, (padded width n).toList.length ≤ n' := by simpa [length] using short
  have read := number_of_noDigit (Date.padded_ne_nil width n)
    (fun _ => Date.isDigit_of_mem_padded) inside (Text.noDigit_cons (c := 'Z') rfl rest)
    (by rwa [Date.value_padded])
  rw [Date.value_padded] at read
  simp only [fraction, read, bind, Except.bind, pure, Except.pure]
  simp [length]

theorem fraction_text {nanosecond : Nat} (small : nanosecond < 1_000_000_000) (rest : List Char) :
    fraction ((fractionText nanosecond).toList ++ 'Z' :: rest) = .ok (nanosecond, 'Z' :: rest) := by
  have point (digits : String) : ("." ++ digits).toList ++ 'Z' :: rest =
      '.' :: (digits.toList ++ 'Z' :: rest) := by simp
  unfold fractionText
  split
  · next zero => subst zero; rfl
  · split
    · next milli =>
      rw [point, fraction_padded (by decide) (by decide) (by omega), Nat.pow_eq]
      congr 2
      omega
    · split
      · next micro =>
        rw [point, fraction_padded (by decide) (by decide) (by omega), Nat.pow_eq]
        congr 2
        omega
      · rw [point, fraction_padded (by decide) (by decide) (by omega), Nat.pow_eq]
        simp

end Timestamp.Reader

namespace Timestamp

open Reader Date

/-- A wall clock that shows UTC. -/
theorem ofWall_self (t : Timestamp) :
    ofWall t.date (t.hour * 60 + t.minute) t.second t.nanosecond 0 = .ok t := by
  obtain ⟨date, hour, minute, second, nanosecond, hour_lt, minute_lt, second_le, nanosecond_lt⟩ := t
  have same : ((((hour * 60 + minute : Nat) : Int) - 0) % 1440).toNat = hour * 60 + minute := by
    omega
  have hours : (hour * 60 + minute) / 60 = hour := by omega
  have rest : (hour * 60 + minute) % 60 = minute := by omega
  simp only [ofWall]
  rw [if_neg (by omega), if_neg (by omega)]
  simp only [same, hours, rest, second_le, nanosecond_lt, and_self, dif_pos]

theorem toList_text (t : Timestamp) : t.text.toList =
    t.date.yearText.toList ++ '-' :: ((padded 2 t.date.month).toList ++ '-' ::
      ((padded 2 t.date.day).toList ++ 'T' :: ((padded 2 t.hour).toList ++ ':' ::
        ((padded 2 t.minute).toList ++ ':' :: ((padded 2 t.second).toList ++
          ((fractionText t.nanosecond).toList ++ 'Z' :: [])))))) := by
  simp [text, Date.text_eq]

/-- The text of every timestamp is read as that timestamp. -/
theorem read_text (t : Timestamp) : read t.text = .ok t := by
  have hour : t.hour ≤ 23 := Nat.le_of_lt_succ t.hour_lt
  have minute : t.minute ≤ 59 := Nat.le_of_lt_succ t.minute_lt
  have second := t.second_le
  have month := t.date.month_le
  have day := t.date.day_le
  have dash : Text.isBlank '-' = false := by decide
  have colon : Text.isBlank ':' = false := by decide
  have zone : Reader.zone (Text.trimStart ['Z']) = .ok (0, []) := rfl
  rw [read, toList_text]
  simp only [year_text, mark_cons dash, mark_cons colon, separator, zone,
    part_padded t.date.one_le_month month (by omega), part_padded t.date.day_mem.1 day (by omega),
    part_padded t.hour.zero_le hour (by omega), part_padded t.minute.zero_le minute (by omega),
    part_padded t.second.zero_le second (by omega), fraction_text t.nanosecond_lt,
    bind, Except.bind, true_or, if_true]
  simp [Date.of?_self, ofWall_self]

end Timestamp

end Transcript
