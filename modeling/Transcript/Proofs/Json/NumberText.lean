import Transcript.Json.Printer
import Transcript.Json.Reader
import Transcript.Proofs.Numeric.Shortest
import Transcript.Proofs.Text.Digits

/-! # What the text of a number is read as

A number of a JSON text ends where the text goes on with none of the characters that a number can
hold (`Reader.EndsNumber`). Up to there every integer of 64 bits is read as itself, and the text of a
double as what `Binary64.ofParts?` makes of its significand and exponent
(`Number.exists_leaves_unsigned`).

A double is written in four shapes. What the reader collects from a text is the coefficient and the
exponent of the decimal (`Decimal.parts`), except where a whole number is written with `.0` behind it:
there the zeros count as digits. The value is the decimal's in any case (`Decimal.parts_value`).
-/

namespace Transcript

namespace Decimal

def digits (d : Decimal) : List Char := Nat.toDigits 10 d.coefficient

def first (d : Decimal) : Int := d.exponent + d.digits.length - 1

/-- The significand and the exponent that a reader collects from the text of a decimal. -/
def parts (layout : Layout) (d : Decimal) : Nat × Int :=
  if (layout.lowest ≤ d.first ∧ d.first ≤ layout.highest) ∧ 0 ≤ d.exponent then
    (d.coefficient * 10 ^ (d.exponent.toNat + 1), -1)
  else (d.coefficient, d.exponent)

/-- The shapes in which a decimal is written, with the significand and the exponent that stand there. -/
inductive Written (d : Decimal) : List Char → Nat × Int → Prop where
  /-- Zeros between the point and the digits. -/
  | small (zeros : Nat) (exponent : d.exponent = -(zeros + d.digits.length : Nat)) :
    d.Written (['0'] ++ '.' :: (List.replicate zeros '0' ++ d.digits)) (d.coefficient, d.exponent)
  /-- Zeros between the digits and the point, and one behind it. -/
  | large (zeros : Nat) (exponent : d.exponent = zeros) :
    d.Written ((d.digits ++ List.replicate zeros '0') ++ '.' :: ['0'])
      (d.coefficient * 10 ^ (zeros + 1), -1)
  /-- The point between the digits. -/
  | split (front : Nat) (positive : 0 < front) (more : front < d.digits.length)
    (exponent : d.exponent = -(d.digits.length - front : Nat)) :
    d.Written (d.digits.take front ++ '.' :: d.digits.drop front) (d.coefficient, d.exponent)
  /-- One digit and an exponent. -/
  | single (below : Bool) (size : Nat) (single : d.digits.length = 1)
    (first : d.first = if below then -(size : Int) else size) :
    d.Written (d.digits ++ 'e' :: (if below then '-' else '+') :: Nat.toDigits 10 size)
      (d.coefficient, d.exponent)
  /-- A point behind the first digit, and an exponent. -/
  | scientific (below : Bool) (size : Nat) (more : 1 < d.digits.length)
    (first : d.first = if below then -(size : Int) else size) :
    d.Written (d.digits.take 1 ++ '.' :: (d.digits.drop 1 ++
      'e' :: (if below then '-' else '+') :: Nat.toDigits 10 size)) (d.coefficient, d.exponent)

theorem parts_value (layout : Layout) (d : Decimal) :
    ((d.parts layout).1 : ℚ) * 10 ^ (d.parts layout).2 = d.value := by
  unfold parts
  split
  · next large =>
    obtain ⟨places, exponent⟩ := Int.eq_ofNat_of_zero_le large.2
    rw [Decimal.value, exponent, Int.toNat_natCast, zpow_natCast]
    push_cast
    rw [pow_succ, zpow_neg_one]
    ring
  · rfl

/-- A decimal starts with a digit. -/
theorem Written.exists_cons {d : Decimal} {text : List Char} {parts : Nat × Int}
    (written : d.Written text parts) : ∃ c t, text = c :: t ∧ c.isDigit = true := by
  obtain ⟨c, t, shape⟩ := List.exists_cons_of_ne_nil
    (Nat.toDigits_ne_nil (n := d.coefficient) (b := 10))
  have isDigit : c.isDigit = true := Text.isDigit_of_mem_toDigits (shape ▸ List.mem_cons_self)
  change d.digits = c :: t at shape
  cases written with
  | small zeros => exact ⟨'0', _, rfl, rfl⟩
  | large zeros => exact ⟨c, _, by rw [shape]; rfl, isDigit⟩
  | split front positive =>
    obtain ⟨front, rfl⟩ := Nat.exists_eq_succ_of_ne_zero positive.ne'
    exact ⟨c, _, by rw [shape]; rfl, isDigit⟩
  | single => exact ⟨c, _, by rw [shape]; rfl, isDigit⟩
  | scientific => exact ⟨c, _, by rw [shape]; rfl, isDigit⟩

theorem render_of_negative (layout : Layout) (negative : Bool) (d : Decimal) :
    (d.render layout negative).toList =
      (if negative then ['-'] else []) ++ (d.render layout false).toList := by
  cases negative <;> simp [render]

theorem render_false (layout : Layout) (d : Decimal) : d.render layout false =
    if layout.lowest ≤ d.first ∧ d.first ≤ layout.highest then
      positional (String.ofList d.digits) d.first
    else scientific (String.ofList d.digits) d.first := by
  simp only [render, first, digits, Nat.toString_eq_ofList_toDigits, String.length_ofList,
    Bool.false_eq_true, if_false, String.empty_append]
  rfl

theorem written_positional {layout : Layout} {d : Decimal}
    (inside : layout.lowest ≤ d.first ∧ d.first ≤ layout.highest) :
    d.Written (positional (String.ofList d.digits) d.first).toList (d.parts layout) := by
  have first : d.first = d.exponent + d.digits.length - 1 := rfl
  have some_digit : 0 < d.digits.length := Nat.length_toDigits_pos
  have parts_of_neg (negative : d.exponent < 0) : d.parts layout = (d.coefficient, d.exponent) :=
    if_neg fun large => absurd negative (not_lt.mpr large.2)
  unfold positional
  split
  · next small =>
    have text := Written.small (d := d) (-d.first - 1).toNat (by omega)
    rw [parts_of_neg (by omega)]
    simpa using text
  · next large =>
    dsimp only
    split
    · next whole =>
      rw [String.length_ofList] at whole
      have zeros : d.first.toNat + 1 - d.digits.length = d.exponent.toNat := by omega
      have text := Written.large (d := d) d.exponent.toNat (by omega)
      rw [parts, if_pos ⟨inside, by omega⟩]
      simpa [zeros] using text
    · next more =>
      rw [String.length_ofList] at more
      have text := Written.split (d := d) (d.first.toNat + 1) (by omega) (by omega) (by omega)
      rw [parts_of_neg (by omega)]
      simpa using text

theorem written_scientific (d : Decimal) :
    d.Written (scientific (String.ofList d.digits) d.first).toList (d.coefficient, d.exponent) := by
  have some_digit : 0 < d.digits.length := Nat.length_toDigits_pos
  have exponent : d.first =
      if decide (d.first < 0) then -(d.first.natAbs : Int) else d.first.natAbs := by
    simp only [decide_eq_true_eq]
    split <;> omega
  have sign : (if d.first < 0 then "e-" else "e+").toList =
      ['e', if decide (d.first < 0) then '-' else '+'] := by
    by_cases below : d.first < 0 <;> simp [below]
  rcases Nat.lt_or_ge 1 d.digits.length with more | few
  · have behind : d.digits.tail ≠ [] := by
      rw [← List.drop_one]
      exact mt List.drop_eq_nil_iff.mp (by omega)
    have text := Written.scientific (d := d) (decide (d.first < 0)) d.first.natAbs more exponent
    simpa [scientific, sign, behind, Nat.toString_eq_ofList_toDigits] using text
  · have behind : d.digits.tail = [] := by
      rw [← List.drop_one]
      exact List.drop_eq_nil_iff.mpr few
    have all : d.digits.take 1 = d.digits := List.take_of_length_le few
    have text := Written.single (d := d) (decide (d.first < 0)) d.first.natAbs (by omega) exponent
    simpa [scientific, sign, behind, all, Nat.toString_eq_ofList_toDigits] using text

/-- A decimal is always written in one of the shapes. -/
theorem written_render (layout : Layout) (d : Decimal) :
    d.Written (d.render layout false).toList (d.parts layout) := by
  rw [render_false]
  split
  · next inside => exact written_positional inside
  · next outside =>
    rw [parts, if_neg fun large => outside large.1]
    exact d.written_scientific

end Decimal

namespace Json.Reader

open Text (NoDigit)

/-- A text that does not go on with a number. -/
structure EndsNumber (rest : List Char) : Prop where
  noDigit : NoDigit rest
  noPoint : rest.head? ≠ some '.'
  noExponent : rest.head? ≠ some 'e' ∧ rest.head? ≠ some 'E'

theorem endsNumber_nil : EndsNumber [] := ⟨nofun, nofun, nofun, nofun⟩

/-- The whole digits of a number: at least one, and no zero in front of another digit. -/
structure Numeral (ds : List Char) : Prop where
  digits : ∀ c ∈ ds, c.isDigit = true
  nonempty : ds ≠ []
  noLeadingZero : ds.head? = some '0' → ds = ['0']

theorem numeral_toDigits (n : Nat) : Numeral (Nat.toDigits 10 n) where
  digits _ := Text.isDigit_of_mem_toDigits
  nonempty := Nat.toDigits_ne_nil
  noLeadingZero zero := by
    by_cases positive : n = 0
    · rw [positive, Nat.toDigits_zero]
    · exact absurd zero (Text.head_toDigits_ne_zero positive)

theorem digitsValue_eq (high : Nat) (ds : List Char) :
    digitsValue high ds = Nat.ofDigitChars 10 ds high :=
  Text.foldl_digits high ds

theorem digitsValue_append (high : Nat) (ds es : List Char) :
    digitsValue high (ds ++ es) = digitsValue (digitsValue high ds) es :=
  List.foldl_append

theorem le_digitsValue (high : Nat) (ds : List Char) : high ≤ digitsValue high ds := by
  rw [digitsValue_eq, Nat.ofDigitChars_eq_ofDigitChars_zero]
  have grown := Nat.le_mul_of_pos_left high (Nat.pow_pos (show 0 < 10 by decide) : 0 < 10 ^ ds.length)
  omega

/-- Digits that fit 64 bits are all counted. -/
theorem significand_eq {high : Nat} {ds : List Char} (fits : digitsValue high ds < UInt64.size) :
    significand high ds = (digitsValue high ds, 0) := by
  induction ds generalizing high with
  | nil => rfl
  | cons c ds ih =>
    have grows : digitsValue high [c] ≤ digitsValue high (c :: ds) := le_digitsValue _ ds
    rw [significand, if_pos (Nat.lt_of_le_of_lt grows fits)]
    exact ih fits

/-- What a reader of a number comes to, and that it leaves `rest` behind. -/
def Leaves {p : List Char → Prop} (read : Except Stop (Number × { rest // p rest }))
    (rest : List Char) (result : Except Stop Number) : Prop :=
  ∃ h : p rest, read = result.map fun number => (number, ⟨rest, h⟩)

variable {negative : Bool} {rest : List Char} {result : Except Stop Number}

/-- A reader that hands on what another one comes to. -/
theorem Leaves.weaken {p q : List Char → Prop} {read : Except Stop (Number × { rest // p rest })}
    (leaves : Leaves read rest result) (weaken : ∀ {text}, p text → q text) :
    Leaves (read.map fun r => (r.1, (⟨r.2.1, weaken r.2.2⟩ : { rest // q rest }))) rest result := by
  obtain ⟨h, rfl⟩ := leaves
  exact ⟨weaken h, by cases result <;> rfl⟩

/-! ## Exponents -/

theorem exponentDigits_append {ds : List Char} (digits : ∀ c ∈ ds, c.isDigit = true) {high : Nat}
    (small : digitsValue high ds < Nat.pow 2 31) (ends : NoDigit rest) :
    exponentDigits high (ds ++ rest) = (digitsValue high ds, rest) := by
  induction ds generalizing high with
  | nil =>
    cases rest with
    | nil => rfl
    | cons c rest =>
      have noDigit : c.isDigit = false := ends c rfl
      simp [exponentDigits, noDigit, digitsValue]
  | cons c ds ih =>
    have isDigit : c.isDigit = true := digits c List.mem_cons_self
    have step : digitsValue high (c :: ds) = digitsValue (digitsValue high [c]) ds := rfl
    have grows : digitsValue high [c] ≤ digitsValue (digitsValue high [c]) ds := le_digitsValue _ ds
    rw [List.cons_append, exponentDigits, if_pos isDigit]
    rw [step] at small ⊢
    have more := ih (fun d member => digits d (List.mem_cons_of_mem c member)) small
    simp only [if_pos (Nat.lt_of_le_of_lt grows small), more]

/-- An exponent as it is written: a sign and digits. -/
theorem leaves_exponent {n size : Nat} {start : Int} {below : Bool} (small : size < Nat.pow 2 31)
    (ends : NoDigit rest) :
    Leaves (exponent negative n start
      ((if below then '-' else '+') :: (Nat.toDigits 10 size ++ rest))) rest
      (double negative n (start + if below then -(size : Int) else size) rest) := by
  have read : exponentDigits 0 (Nat.toDigits 10 size ++ rest) = (size, rest) := by
    have value : digitsValue 0 (Nat.toDigits 10 size) = size := by simp [digitsValue_eq]
    rw [exponentDigits_append (fun _ => Text.isDigit_of_mem_toDigits) (by rwa [value]) ends, value]
  obtain ⟨d, ds, shape⟩ := List.exists_cons_of_ne_nil (Nat.toDigits_ne_nil (n := size) (b := 10))
  have isDigit : d.isDigit = true := Text.isDigit_of_mem_toDigits (shape ▸ List.mem_cons_self)
  rw [shape, List.cons_append] at read
  rw [shape, List.cons_append]
  refine ⟨by simp; omega, ?_⟩
  cases below
  · cases number : double negative n (start + size) rest <;>
      simp [exponent, isDigit, read, small, number, Except.map, bind, Except.bind, pure, Except.pure]
  · cases number : double negative n (start + -size) rest <;>
      simp [exponent, isDigit, read, small, number, Except.map, bind, Except.bind, pure, Except.pure]

/-! ## The parts of a number -/

/-- Digits that nothing follows. -/
theorem leaves_scaled_of_end {n : Nat} {start : Int} (ends : EndsNumber rest) :
    Leaves (scaled negative n start rest) rest (double negative n start rest) := by
  refine ⟨Nat.le_refl _, ?_⟩
  unfold scaled
  split
  · exact absurd rfl ends.noExponent.1
  · exact absurd rfl ends.noExponent.2
  · rfl

/-- Digits with an exponent. -/
theorem leaves_scaled_of_exponent {n size : Nat} {start : Int} {below : Bool}
    (small : size < Nat.pow 2 31) (ends : NoDigit rest) :
    Leaves (scaled negative n start
      ('e' :: (if below then '-' else '+') :: (Nat.toDigits 10 size ++ rest))) rest
      (double negative n (start + if below then -(size : Int) else size) rest) :=
  (leaves_exponent small ends).weaken Nat.le_succ_of_le

/-- A fraction: a point and at least one digit. -/
theorem leaves_fraction_of_point {ds tail : List Char} {n : Nat} (digits : ∀ c ∈ ds, c.isDigit = true)
    (nonempty : ds ≠ []) (fits : digitsValue n ds < UInt64.size) (ends : NoDigit tail)
    (read : Leaves (scaled negative (digitsValue n ds) (-(ds.length : Int)) tail) rest result) :
    Leaves (fraction negative n 0 ('.' :: (ds ++ tail))) rest result := by
  have read : Leaves (scaled negative (digitsValue n ds) (-(ds.length : Int))
      ((ds ++ tail).dropWhile Char.isDigit)) rest result := by
    rwa [Text.dropWhile_isDigit digits ends]
  have some_digit : ds.isEmpty = false := by simpa using nonempty
  have shorter : ((ds ++ tail).dropWhile Char.isDigit).length ≤ (ds ++ tail).length :=
    (List.dropWhile_suffix _).length_le
  have handed := read.weaken (q := fun text => text.length ≤ ('.' :: (ds ++ tail)).length)
    fun h => Nat.le_trans h (Nat.le_succ_of_le shorter)
  simpa [fraction, Text.takeWhile_isDigit digits ends, some_digit, significand_eq fits] using handed

/-- Whole digits that nothing follows. -/
theorem leaves_fraction_of_end {n : Nat} (ends : EndsNumber rest) :
    Leaves (fraction negative n 0 rest) rest (whole negative n 0 rest) := by
  refine ⟨Nat.le_refl _, ?_⟩
  unfold fraction
  split
  · exact absurd rfl ends.noPoint
  · exact absurd rfl ends.noExponent.1
  · exact absurd rfl ends.noExponent.2
  · rfl

/-- The whole digits of a number, and what follows them. -/
theorem leaves_unsigned {ds tail : List Char} (numeral : Numeral ds)
    (fits : digitsValue 0 ds < UInt64.size) (ends : NoDigit tail)
    (read : Leaves (fraction negative (digitsValue 0 ds) 0 tail) rest result) :
    Leaves (unsigned negative (ds ++ tail)) rest result := by
  obtain ⟨c, ds, rfl⟩ := List.exists_cons_of_ne_nil numeral.nonempty
  have isDigit : c.isDigit = true := numeral.digits c List.mem_cons_self
  have digits : ∀ d ∈ ds, d.isDigit = true := fun d member =>
    numeral.digits d (List.mem_cons_of_mem c member)
  have read : Leaves (fraction negative (digitsValue 0 (c :: ds)) 0
      ((ds ++ tail).dropWhile Char.isDigit)) rest result := by
    rwa [Text.dropWhile_isDigit digits ends]
  have noLeadingZero : ¬(c = '0' ∧ tail.length ≠ (ds ++ tail).length) := by
    rintro ⟨rfl, more⟩
    have alone := numeral.noLeadingZero rfl
    simp_all
  have shorter : ((ds ++ tail).dropWhile Char.isDigit).length ≤ (ds ++ tail).length :=
    (List.dropWhile_suffix _).length_le
  have handed := read.weaken (q := fun text => text.length < (c :: (ds ++ tail)).length)
    fun h => Nat.lt_succ_of_le (Nat.le_trans h shorter)
  rw [List.cons_append, unsigned, if_pos isDigit]
  simp only [Text.dropWhile_isDigit digits ends] at handed ⊢
  simpa only [Text.takeWhile_isDigit digits ends, if_neg noLeadingZero, significand_eq fits] using handed

/-! ## Decimals -/

theorem numeral_take {ds : List Char} (numeral : Numeral ds) {n : Nat} (positive : 0 < n) :
    Numeral (ds.take n) := by
  obtain ⟨c, ds, rfl⟩ := List.exists_cons_of_ne_nil numeral.nonempty
  obtain ⟨m, rfl⟩ : ∃ m, n = m + 1 := ⟨n - 1, by omega⟩
  refine ⟨fun d member => numeral.digits d (List.mem_of_mem_take member), by simp, fun zero => ?_⟩
  have alone := numeral.noLeadingZero (by simpa using zero)
  simp_all

theorem numeral_append_zeros {n k : Nat} (zero : n = 0 → k = 0) :
    Numeral (Nat.toDigits 10 n ++ List.replicate k '0') := by
  have numeral := numeral_toDigits n
  refine ⟨?_, by simp [numeral.nonempty], ?_⟩
  · intro c member
    rcases List.mem_append.mp member with inside | added
    · exact numeral.digits c inside
    · rw [List.eq_of_mem_replicate added]; rfl
  · intro leading
    by_cases positive : n = 0
    · simp [positive, zero positive]
    · obtain ⟨c, ds, shape⟩ := List.exists_cons_of_ne_nil numeral.nonempty
      have first := Text.head_toDigits_ne_zero positive
      simp_all

/-- Digits on both sides of a point. -/
theorem leaves_unsigned_of_point {front back : List Char} (numeral : Numeral front)
    (digits : ∀ c ∈ back, c.isDigit = true) (nonempty : back ≠ [])
    (fits : digitsValue 0 (front ++ back) < UInt64.size) (ends : EndsNumber rest) :
    Leaves (unsigned negative ((front ++ '.' :: back) ++ rest)) rest
      (double negative (digitsValue 0 (front ++ back)) (-(back.length : Int)) rest) := by
  rw [digitsValue_append] at fits ⊢
  rw [List.append_assoc, List.cons_append]
  refine leaves_unsigned numeral (Nat.lt_of_le_of_lt (le_digitsValue _ back) fits)
    (Text.noDigit_cons rfl _) ?_
  exact leaves_fraction_of_point digits nonempty fits ends.noDigit (leaves_scaled_of_end ends)

/-- What the text of a decimal is read as. -/
theorem leaves_unsigned_of_written {d : Decimal} {text : List Char} {parts : Nat × Int}
    (written : d.Written text parts) (fits : parts.1 < UInt64.size)
    (zero : d.coefficient = 0 → d.exponent = 0) (bound : d.first.natAbs < Nat.pow 2 31)
    (ends : EndsNumber rest) :
    Leaves (unsigned negative (text ++ rest)) rest (double negative parts.1 parts.2 rest) := by
  have numeral := numeral_toDigits d.coefficient
  have value : digitsValue 0 d.digits = d.coefficient := by
    rw [digitsValue_eq, Decimal.digits, Nat.ofDigitChars_ten_toDigits]
  have size_lt {below : Bool} {size : Nat}
      (first : d.first = if below then -(size : Int) else size) : size < Nat.pow 2 31 := by
    rw [first] at bound
    cases below <;> simpa using bound
  cases written with
  | small zeros exponent =>
    have counted : digitsValue 0 (['0'] ++ (List.replicate zeros '0' ++ d.digits)) = d.coefficient := by
      simp [digitsValue_eq, Nat.ofDigitChars_append, Nat.ofDigitChars_cons, ← value]
    have behind : (d.exponent : Int) = -((List.replicate zeros '0' ++ d.digits).length : Nat) := by
      simpa using exponent
    rw [behind, ← counted]
    refine leaves_unsigned_of_point (numeral_toDigits 0) (fun c member => ?_)
      (by simp [Decimal.digits, Nat.toDigits_ne_nil]) (counted ▸ fits) ends
    rcases List.mem_append.mp member with zero | digit
    · rw [List.eq_of_mem_replicate zero]; rfl
    · exact numeral.digits c digit
  | large zeros exponent =>
    have counted : digitsValue 0 ((d.digits ++ List.replicate zeros '0') ++ ['0']) =
        d.coefficient * 10 ^ (zeros + 1) := by
      simp [digitsValue_eq, Nat.ofDigitChars_append, Nat.ofDigitChars_cons, ← value, pow_succ]
      ring
    rw [← counted]
    refine leaves_unsigned_of_point (numeral_append_zeros fun none => ?_) (by simp) (by simp)
      (counted ▸ fits) ends
    have := zero none
    omega
  | split front positive more exponent =>
    have counted : digitsValue 0 (d.digits.take front ++ d.digits.drop front) = d.coefficient := by
      rw [List.take_append_drop, value]
    have behind : d.exponent = -((d.digits.drop front).length : Int) := by
      rw [List.length_drop, exponent]
    rw [behind, ← counted]
    exact leaves_unsigned_of_point (numeral_take numeral positive)
      (fun c member => numeral.digits c (List.mem_of_mem_drop member))
      (mt List.drop_eq_nil_iff.mp (by omega)) (counted ▸ fits) ends
  | single below size single first =>
    have exponent : d.exponent = 0 + if below then -(size : Int) else size := by
      rw [← first, Decimal.first, single]
      omega
    rw [List.append_assoc, List.cons_append, List.cons_append, exponent, ← value]
    refine leaves_unsigned numeral (value ▸ fits) (Text.noDigit_cons rfl _) ?_
    exact leaves_scaled_of_exponent (size_lt first) ends.noDigit
  | scientific below size more first =>
    have joined : digitsValue (digitsValue 0 (d.digits.take 1)) (d.digits.drop 1) = d.coefficient := by
      rw [← digitsValue_append, List.take_append_drop, value]
    have exponent : d.exponent =
        -((d.digits.drop 1).length : Int) + if below then -(size : Int) else size := by
      rw [← first, Decimal.first, List.length_drop]
      omega
    rw [List.append_assoc, List.cons_append, List.append_assoc, List.cons_append, List.cons_append,
      exponent, ← joined]
    refine leaves_unsigned (numeral_take numeral Nat.one_pos)
      (Nat.lt_of_le_of_lt (le_digitsValue _ _) (joined ▸ fits)) (Text.noDigit_cons rfl _) ?_
    exact leaves_fraction_of_point (fun c member => numeral.digits c (List.mem_of_mem_drop member))
      (mt List.drop_eq_nil_iff.mp (by omega)) (joined ▸ fits) (Text.noDigit_cons rfl _)
      (leaves_scaled_of_exponent (size_lt first) ends.noDigit)

end Json.Reader

/-! ## Numbers -/

namespace Binary64

/-- The significand and the exponent that are collected from the text of a double. -/
def parts (x : Binary64) : Nat × Int := x.shortest.parts Json.doubleLayout

theorem parts_fst_lt (x : Binary64) : x.parts.1 < UInt64.size := by
  rw [parts, Decimal.parts]
  split
  · next large =>
    -- A whole number has at most sixteen digits in front of the point.
    have width : x.shortest.exponent.toNat + 1 + x.shortest.digits.length ≤ 17 := by
      have highest : x.shortest.first ≤ 15 := large.1.2
      have first : x.shortest.first = x.shortest.exponent + x.shortest.digits.length - 1 := rfl
      omega
    calc x.shortest.coefficient * 10 ^ (x.shortest.exponent.toNat + 1)
        < 10 ^ x.shortest.digits.length * 10 ^ (x.shortest.exponent.toNat + 1) :=
          Nat.mul_lt_mul_of_pos_right (lt_ten_pow_length _) (by positivity)
      _ = 10 ^ (x.shortest.exponent.toNat + 1 + x.shortest.digits.length) := by
          rw [← Nat.pow_add, Nat.add_comm]
      _ ≤ 10 ^ 17 := Nat.pow_le_pow_right (by norm_num) width
      _ < UInt64.size := by norm_num
  · exact x.coefficient_shortest_lt

theorem exponent_shortest_eq_zero {x : Binary64} (zero : x.shortest.coefficient = 0) :
    x.shortest.exponent = 0 := by
  by_cases nonzero : x.mantissa = 0
  · rw [shortest, if_pos nonzero]
  · exact absurd zero ((nearest_shortest nonzero).coefficient_pos nonzero).ne'

theorem natAbs_first_shortest_lt (x : Binary64) : x.shortest.first.natAbs < Nat.pow 2 31 := by
  by_cases nonzero : x.mantissa = 0
  · rw [shortest, if_pos nonzero]
    decide
  · have range := magnitude_mem nonzero (nearest_shortest nonzero)
    simp only [Decimal.first, Decimal.digits, Nat.pow_eq]
    omega

end Binary64

namespace Json

open Reader

/-- Whether a number can have been read: an integer is within 64 bits, with or without a sign. -/
def Number.Fits : Number → Prop
  | .int n => -(Nat.pow 2 63 : Nat) ≤ n ∧ n < (UInt64.size : Nat)
  | .float _ => True

/-- What the text of a number is read as in front of `rest`. -/
def Number.reread (rest : List Char) : Number → Except Stop Number
  | .int n => .ok (.int n)
  | .float x => double x.negative x.parts.1 x.parts.2 rest

theorem whole_natAbs {n : Int} (fits : (Number.int n).Fits) (rest : List Char) :
    whole (n < 0) n.natAbs 0 rest = .ok (.int n) := by
  obtain ⟨low, high⟩ := fits
  rw [whole, if_neg (Nat.lt_irrefl 0)]
  rcases lt_or_ge n 0 with negative | positive
  · have value : -(n.natAbs : Int) = n := by omega
    simp only [negative, decide_true, if_true]
    rw [if_pos (by omega), value]
  · have value : (n.natAbs : Int) = n := by omega
    simp only [not_lt.mpr positive, decide_false, Bool.false_eq_true, if_false, value]

/-- The text of a number is a sign or none and digits, and what these are read as is known. -/
theorem Number.exists_leaves_unsigned {n : Number} (fits : n.Fits) :
    ∃ negative c t, n.text.toList = (if negative then ['-'] else []) ++ c :: t ∧ c.isDigit = true ∧
      ∀ rest, EndsNumber rest → Leaves (unsigned negative (c :: t ++ rest)) rest (n.reread rest) := by
  cases n with
  | int n =>
    obtain ⟨c, t, shape⟩ := List.exists_cons_of_ne_nil (Nat.toDigits_ne_nil (n := n.natAbs) (b := 10))
    refine ⟨decide (n < 0), c, t, ?_, ?_, fun rest ends => ?_⟩
    · rw [← shape]
      simp only [Number.text, Int.toString_eq_repr, Int.repr_eq_if, Nat.repr_eq_ofList_toDigits]
      rcases lt_or_ge n 0 with negative | positive
      · rw [if_neg (by omega)]
        simp [negative, show (-n).toNat = n.natAbs by omega]
      · rw [if_pos positive]
        simp [not_lt.mpr positive, show n.toNat = n.natAbs by omega]
    · exact Text.isDigit_of_mem_toDigits (shape ▸ List.mem_cons_self)
    · have value : digitsValue 0 (Nat.toDigits 10 n.natAbs) = n.natAbs := by
        rw [digitsValue_eq, Nat.ofDigitChars_ten_toDigits]
      have small : n.natAbs < UInt64.size := by
        have := fits.1
        have := fits.2
        simp only [UInt64.size, Nat.pow_eq] at *
        omega
      rw [← shape, reread, ← whole_natAbs fits rest]
      refine leaves_unsigned (numeral_toDigits _) (value.symm ▸ small) ends.noDigit ?_
      rw [value]
      exact leaves_fraction_of_end ends
  | float x =>
    have written := Decimal.written_render doubleLayout x.shortest
    obtain ⟨c, t, shape, isDigit⟩ := written.exists_cons
    refine ⟨x.negative, c, t, ?_, isDigit, fun rest ends => ?_⟩
    · rw [Number.text, Decimal.render_of_negative, shape]
    · rw [← shape]
      exact leaves_unsigned_of_written written x.parts_fst_lt Binary64.exponent_shortest_eq_zero
        x.natAbs_first_shortest_lt ends

end Json

end Transcript
