import Mathlib.Algebra.Order.Field.Power
import Mathlib.Data.Rat.Cast.Order
import Mathlib.Tactic.FieldSimp
import Mathlib.Tactic.Linarith
import Mathlib.Tactic.Positivity
import Mathlib.Tactic.Ring
import Transcript.Numeric.Shortest

/-! # Rounding to the nearest double

`Binary64.Nearest x q` says of a rational `q` that it lies between the two midpoints next to the
positive double `x`; the midpoints themselves belong to it where the mantissa is even. Every
fraction of such a value rounds to `x` (`Binary64.ofRatio?_eq_some`), and these are the fractions
that `Binary64.interval` is made for (`Binary64.contains_interval_iff`).

The exponent that rounding chooses is the one with which the quotient keeps 53 bits (`scaleOf_eq`).
It is the exponent of `x` but for fractions just below a power of two. Those are first rounded with
one bit more, up to `2 ^ 53`, and then carried into the next exponent (`ofRatio?_of_carried`).
-/

namespace Transcript.Binary64

def magnitude (x : Binary64) : ℚ := x.mantissa * 2 ^ x.exponent

/-- How far the interval of a double reaches down, in units of its last place. -/
def reachBelow (x : Binary64) : ℚ :=
  if x.mantissa = Nat.pow 2 52 ∧ x.exponent ≠ -1074 then 1 / 4 else 1 / 2

def lowerEnd (x : Binary64) : ℚ := (x.mantissa - x.reachBelow) * 2 ^ x.exponent

def upperEnd (x : Binary64) : ℚ := (x.mantissa + 1 / 2) * 2 ^ x.exponent

/-- The rationals that round to a positive double. -/
structure Nearest (x : Binary64) (q : ℚ) : Prop where
  low : x.lowerEnd ≤ q
  high : q ≤ x.upperEnd
  odd : x.mantissa % 2 = 1 → x.lowerEnd < q ∧ q < x.upperEnd

theorem reachBelow_le (x : Binary64) : x.reachBelow ≤ 1 / 2 := by
  unfold reachBelow
  split <;> norm_num

theorem reachBelow_pos (x : Binary64) : 0 < x.reachBelow := by
  unfold reachBelow
  split <;> norm_num

theorem one_le_mantissa {x : Binary64} (nonzero : x.mantissa ≠ 0) : (1 : ℚ) ≤ x.mantissa := by
  exact_mod_cast Nat.one_le_iff_ne_zero.mpr nonzero

theorem mantissa_add_one_le (x : Binary64) : (x.mantissa : ℚ) + 1 ≤ 2 ^ 53 := by
  exact_mod_cast x.canonical.1

/-! ## Fractions and powers -/

/-- An integer power as a fraction of natural powers. -/
theorem zpow_eq_div {b : ℚ} (nonzero : b ≠ 0) (k : ℤ) :
    b ^ k = b ^ k.toNat / b ^ (-k).toNat := by
  rw [← zpow_natCast, ← zpow_natCast, ← zpow_sub₀ nonzero]
  congr 1
  omega

theorem scale_div (num den : ℕ) (k : ℤ) :
    ((scale num den k).1 : ℚ) / (scale num den k).2 = num / den / 2 ^ k := by
  rw [zpow_eq_div two_ne_zero k]
  simp only [scale, Nat.pow_eq, Nat.cast_mul, Nat.cast_pow, Nat.cast_ofNat]
  field_simp

theorem scale_snd_pos {num den : ℕ} (positive : 0 < den) (k : ℤ) : 0 < (scale num den k).2 :=
  Nat.mul_pos positive (Nat.pos_of_ne_zero (by simp [Nat.pow_eq]))

theorem two_zpow_log2_le {n : ℕ} (positive : 0 < n) : (2 : ℚ) ^ (n.log2 : ℤ) ≤ n := by
  rw [zpow_natCast]
  exact_mod_cast Nat.log2_self_le positive.ne'

theorem lt_two_zpow_log2 (n : ℕ) : (n : ℚ) < 2 ^ (n.log2 + 1 : ℤ) := by
  have bound : n < 2 ^ (n.log2 + 1) := Nat.lt_log2_self
  exact_mod_cast bound

/-! ## The two steps of rounding -/

theorem roundQuotient_eq {num den m : ℕ} (positive : 0 < den) (low : 2 * m * den ≤ 2 * num + den)
    (high : 2 * num ≤ 2 * m * den + den)
    (odd : m % 2 = 1 → 2 * m * den < 2 * num + den ∧ 2 * num < 2 * m * den + den) :
    roundQuotient num den = m := by
  have split : den * (num / den) + num % den = num := Nat.div_add_mod num den
  have rest : num % den < den := Nat.mod_lt num positive
  simp only [roundQuotient]
  generalize num / den = whole at split ⊢
  generalize num % den = remainder at split rest ⊢
  have notBelow : whole ≤ m := by
    by_contra less
    have : (m + 1) * den ≤ whole * den := Nat.mul_le_mul_right den (by omega)
    nlinarith
  have notAbove : m ≤ whole + 1 := by
    by_contra more
    have : (whole + 2) * den ≤ m * den := Nat.mul_le_mul_right den (by omega)
    nlinarith
  obtain rfl | rfl : m = whole ∨ m = whole + 1 := by omega
  · have half : 2 * remainder ≤ den := by nlinarith
    have tie : 2 * remainder = den → m % 2 = 0 := by
      intro even
      by_contra isOdd
      have := odd (by omega)
      nlinarith
    rw [if_pos (by omega)]
  · have half : den ≤ 2 * remainder := by nlinarith
    have tie : 2 * remainder = den → (whole + 1) % 2 = 0 := by
      intro even
      by_contra isOdd
      have := odd (by omega)
      nlinarith
    rw [if_neg (by omega)]

/-- Rounding at a given exponent. -/
theorem roundQuotient_scale_eq {num den m : ℕ} {e : ℤ} (positive : 0 < den)
    (low : ((m : ℚ) - 1 / 2) * 2 ^ e ≤ num / den) (high : (num : ℚ) / den ≤ (m + 1 / 2) * 2 ^ e)
    (odd : m % 2 = 1 →
      ((m : ℚ) - 1 / 2) * 2 ^ e < num / den ∧ (num : ℚ) / den < (m + 1 / 2) * 2 ^ e) :
    roundQuotient (scale num den e).1 (scale num den e).2 = m := by
  have unit : (0 : ℚ) < 2 ^ e := by positivity
  have denPos : (0 : ℚ) < (scale num den e).2 := by exact_mod_cast scale_snd_pos positive e
  rw [← le_div_iff₀ unit, ← scale_div, le_div_iff₀ denPos] at low
  rw [← div_le_iff₀ unit, ← scale_div, div_le_iff₀ denPos] at high
  rw [← lt_div_iff₀ unit, ← div_lt_iff₀ unit, ← scale_div, lt_div_iff₀ denPos,
    div_lt_iff₀ denPos] at odd
  refine roundQuotient_eq (scale_snd_pos positive e) ?_ ?_ fun isOdd => ?_
  · have : 2 * (m : ℚ) * (scale num den e).2 ≤
        2 * (scale num den e).1 + (scale num den e).2 := by linarith
    exact_mod_cast this
  · have : 2 * ((scale num den e).1 : ℚ) ≤
        2 * m * (scale num den e).2 + (scale num den e).2 := by linarith
    exact_mod_cast this
  · obtain ⟨oddLow, oddHigh⟩ := odd isOdd
    constructor
    · have : 2 * (m : ℚ) * (scale num den e).2 <
          2 * (scale num den e).1 + (scale num den e).2 := by linarith
      exact_mod_cast this
    · have : 2 * ((scale num den e).1 : ℚ) <
          2 * m * (scale num den e).2 + (scale num den e).2 := by linarith
      exact_mod_cast this

/-- By their numbers of bits a quotient is known up to a factor of four. -/
theorem ratio_mem {num den : ℕ} (numPos : 0 < num) (denPos : 0 < den) :
    (2 : ℚ) ^ (num.log2 - den.log2 - 1 : ℤ) < num / den ∧
      (num : ℚ) / den < 2 ^ (num.log2 - den.log2 + 1 : ℤ) := by
  have denPos' : (0 : ℚ) < den := by exact_mod_cast denPos
  constructor
  · rw [lt_div_iff₀ denPos']
    calc (2 : ℚ) ^ (num.log2 - den.log2 - 1 : ℤ) * den
        < 2 ^ (num.log2 - den.log2 - 1 : ℤ) * 2 ^ (den.log2 + 1 : ℤ) := by
          gcongr
          exact lt_two_zpow_log2 den
      _ = 2 ^ (num.log2 : ℤ) := by rw [← zpow_add₀ two_ne_zero]; congr 1; omega
      _ ≤ num := two_zpow_log2_le numPos
  · rw [div_lt_iff₀ denPos']
    calc (num : ℚ) < 2 ^ (num.log2 + 1 : ℤ) := lt_two_zpow_log2 num
      _ = 2 ^ (num.log2 - den.log2 + 1 : ℤ) * 2 ^ (den.log2 : ℤ) := by
        rw [← zpow_add₀ two_ne_zero]; congr 1; omega
      _ ≤ 2 ^ (num.log2 - den.log2 + 1 : ℤ) * den := by
        gcongr
        exact two_zpow_log2_le denPos

/-- Whether a scaled quotient has at most 52 bits. -/
theorem scale_div_lt_iff {num den : ℕ} (denPos : 0 < den) (e : ℤ) :
    (scale num den e).1 / (scale num den e).2 < Nat.pow 2 52 ↔
      (num : ℚ) / den < 2 ^ (e + 52) := by
  have positive : (0 : ℚ) < (scale num den e).2 := by exact_mod_cast scale_snd_pos denPos e
  rw [Nat.div_lt_iff_lt_mul (scale_snd_pos denPos e), zpow_add₀ two_ne_zero,
    ← div_lt_iff₀' (by positivity), ← scale_div, div_lt_iff₀ positive, Nat.pow_eq]
  norm_cast

/-- The quotient keeps 53 bits with the exponent that is chosen, unless that is the least one. -/
theorem scaleOf_eq {num den : ℕ} {e : ℤ} (numPos : 0 < num) (denPos : 0 < den) (least : -1074 ≤ e)
    (below : (num : ℚ) / den < 2 ^ (e + 53)) (above : 2 ^ (e + 52) ≤ (num : ℚ) / den ∨ e = -1074) :
    scaleOf num den = e := by
  obtain ⟨low, high⟩ := ratio_mem numPos denPos
  simp only [scaleOf]
  -- The estimate is right or one too large.
  generalize estimated : (num.log2 : ℤ) - den.log2 - 52 = estimate
  rw [show (num.log2 - den.log2 - 1 : ℤ) = estimate + 51 by omega] at low
  rw [show (num.log2 - den.log2 + 1 : ℤ) = estimate + 53 by omega] at high
  generalize chosen : (if (scale num den estimate).1 / (scale num den estimate).2 < Nat.pow 2 52
    then estimate - 1 else estimate) = t
  obtain ⟨tLow, tHigh⟩ : (2 : ℚ) ^ (t + 52) ≤ num / den ∧ (num : ℚ) / den < 2 ^ (t + 53) := by
    subst chosen
    split
    · next h =>
      rw [show estimate - 1 + 52 = estimate + 51 by omega,
        show estimate - 1 + 53 = estimate + 52 by omega]
      exact ⟨low.le, (scale_div_lt_iff denPos estimate).mp h⟩
    · next h => exact ⟨not_lt.mp (mt (scale_div_lt_iff denPos estimate).mpr h), high⟩
  have tLe : t + 52 < e + 53 :=
    (zpow_lt_zpow_iff_right₀ one_lt_two).mp (lt_of_le_of_lt tLow below)
  rcases above with above | rfl
  · have := (zpow_lt_zpow_iff_right₀ one_lt_two).mp (lt_of_le_of_lt above tHigh)
    omega
  · omega

/-! ## The nearest double -/

/-- What rounding gives when the exponent and the rounded quotient are known. -/
theorem ofRatio?_of_parts {negative : Bool} {num den m : ℕ} {e : ℤ} (numPos : 0 < num)
    (canonical : Canonical m e) (exponent : scaleOf num den = e)
    (rounded : roundQuotient (scale num den e).1 (scale num den e).2 = m) :
    ofRatio? negative num den = some ⟨negative, m, e, canonical⟩ := by
  have short : m ≠ Nat.pow 2 53 := canonical.1.ne
  simp only [ofRatio?, numPos.ne', if_false, exponent, rounded, short]
  exact dif_pos canonical

/-- What rounding gives when the rounded quotient has one bit too many. -/
theorem ofRatio?_of_carry {negative : Bool} {num den : ℕ} {e : ℤ} (numPos : 0 < num)
    (canonical : Canonical (Nat.pow 2 52) (e + 1)) (exponent : scaleOf num den = e)
    (rounded : roundQuotient (scale num den e).1 (scale num den e).2 = Nat.pow 2 53) :
    ofRatio? negative num den = some ⟨negative, Nat.pow 2 52, e + 1, canonical⟩ := by
  simp only [ofRatio?, numPos.ne', if_false, exponent, rounded, if_true]
  exact dif_pos canonical

/-- Just below a power of two, that power is the nearest double. -/
theorem ofRatio?_of_carried {x : Binary64} {num den : ℕ} (power : x.mantissa = Nat.pow 2 52)
    (notLeast : x.exponent ≠ -1074) (numPos : 0 < num) (denPos : 0 < den)
    (low : x.lowerEnd ≤ (num : ℚ) / den) (small : (num : ℚ) / den < 2 ^ (x.exponent + 52)) :
    ofRatio? x.negative num den = some x := by
  have reach : x.reachBelow = 1 / 4 := if_pos ⟨power, notLeast⟩
  unfold lowerEnd at low
  obtain ⟨negative, m, e, canonical⟩ := x
  obtain ⟨d, rfl⟩ : ∃ d, e = d + 1 := ⟨e - 1, by omega⟩
  dsimp only at power notLeast low small ⊢
  subst power
  have low : ((Nat.pow 2 53 : ℕ) - 1 / 2) * 2 ^ d ≤ (num : ℚ) / den := by
    refine le_trans (le_of_eq ?_) low
    rw [reach, zpow_add_one₀ two_ne_zero]
    norm_num
    ring
  have small : (num : ℚ) / den < (Nat.pow 2 53 : ℕ) * 2 ^ d := by
    refine lt_of_lt_of_eq small ?_
    rw [show d + 1 + 52 = d + 53 by omega, zpow_add₀ two_ne_zero]
    norm_num
    ring
  have unit : (0 : ℚ) < 2 ^ d := by positivity
  have exponent : scaleOf num den = d := by
    have least := canonical.2.1
    refine scaleOf_eq numPos denPos (by omega) ?_ (.inl ?_)
    · rw [zpow_add₀ two_ne_zero]
      norm_num at small ⊢
      linarith
    · rw [zpow_add₀ two_ne_zero]
      norm_num at low ⊢
      linarith
  refine ofRatio?_of_carry numPos canonical exponent ?_
  refine roundQuotient_scale_eq denPos low ?_ fun isOdd => absurd isOdd (by decide)
  linarith

variable {x : Binary64} {q : ℚ}

theorem lowerEnd_lt_magnitude (x : Binary64) : x.lowerEnd < x.magnitude := by
  have reach := mul_pos x.reachBelow_pos (show (0 : ℚ) < 2 ^ x.exponent by positivity)
  rw [lowerEnd, magnitude, sub_mul]
  linarith

theorem upperEnd_eq (x : Binary64) : x.upperEnd = x.magnitude + 2 ^ (x.exponent - 1) := by
  rw [upperEnd, magnitude, zpow_sub_one₀ two_ne_zero]
  ring

/-- A double is nearest to itself. -/
theorem nearest_magnitude (x : Binary64) : x.Nearest x.magnitude := by
  have low := x.lowerEnd_lt_magnitude
  have high : x.magnitude < x.upperEnd := by
    rw [upperEnd_eq]
    exact lt_add_of_pos_right _ (by positivity)
  exact ⟨low.le, high.le, fun _ => ⟨low, high⟩⟩

/-- What is nearest to a double is at most half a unit of the last place below it. -/
theorem Nearest.half_below (nearest : x.Nearest q) :
    ((x.mantissa : ℚ) - 1 / 2) * 2 ^ x.exponent ≤ q := by
  refine le_trans ?_ nearest.low
  have reach := x.reachBelow_le
  unfold lowerEnd
  gcongr

/-- It has no more bits than a mantissa. -/
theorem Nearest.lt_two_zpow (nearest : x.Nearest q) : q < 2 ^ (x.exponent + 53) := by
  have bound := x.mantissa_add_one_le
  calc q ≤ (x.mantissa + 1 / 2) * 2 ^ x.exponent := nearest.high
    _ < 2 ^ 53 * 2 ^ x.exponent := by gcongr; linarith
    _ = 2 ^ (x.exponent + 53) := by rw [zpow_add₀ two_ne_zero, mul_comm]; norm_num

/-- It has as many, unless it lies just below a power of two or the double has the least
exponent. -/
theorem Nearest.two_zpow_le (nearest : x.Nearest q) (notLeast : x.exponent ≠ -1074)
    (notCarried : x.mantissa = Nat.pow 2 52 → 2 ^ (x.exponent + 52) ≤ q) :
    2 ^ (x.exponent + 52) ≤ q := by
  have normal : Nat.pow 2 52 ≤ x.mantissa := x.canonical.2.2.2.resolve_right notLeast
  rcases normal.eq_or_lt with power | more
  · exact notCarried power.symm
  · have more : (2 : ℚ) ^ 52 + 1 ≤ x.mantissa := by exact_mod_cast more
    calc (2 : ℚ) ^ (x.exponent + 52) = 2 ^ 52 * 2 ^ x.exponent := by
          rw [zpow_add₀ two_ne_zero, mul_comm]; norm_num
      _ ≤ (x.mantissa - 1 / 2) * 2 ^ x.exponent := by gcongr; linarith
      _ ≤ q := nearest.half_below

/-- What is nearest to a positive double is positive. -/
theorem Nearest.pos (nearest : x.Nearest q) (nonzero : x.mantissa ≠ 0) : 0 < q := by
  have one_le := one_le_mantissa nonzero
  exact lt_of_lt_of_le (mul_pos (by linarith) (by positivity)) nearest.half_below

theorem Nearest.coefficient_pos {c : ℕ} {k : ℤ} (nearest : x.Nearest (c * 10 ^ k))
    (nonzero : x.mantissa ≠ 0) : 0 < c := by
  have := (mul_pos_iff_of_pos_right (by positivity)).mp (nearest.pos nonzero)
  exact_mod_cast this

/-- A fraction is rounded to the double that it is nearest to. -/
theorem ofRatio?_eq_some (nonzero : x.mantissa ≠ 0) {num den : ℕ} (denPos : 0 < den)
    (nearest : x.Nearest (num / den)) : ofRatio? x.negative num den = some x := by
  have numPos : 0 < num := by
    have := (div_pos_iff_of_pos_right (by exact_mod_cast denPos)).mp (nearest.pos nonzero)
    exact_mod_cast this
  by_cases carried : x.mantissa = Nat.pow 2 52 ∧ x.exponent ≠ -1074 ∧
      (num : ℚ) / den < 2 ^ (x.exponent + 52)
  · obtain ⟨power, notLeast, small⟩ := carried
    exact ofRatio?_of_carried power notLeast numPos denPos nearest.low small
  · have above : 2 ^ (x.exponent + 52) ≤ (num : ℚ) / den ∨ x.exponent = -1074 := by
      rw [or_iff_not_imp_right]
      intro notLeast
      exact nearest.two_zpow_le notLeast fun power =>
        not_lt.mp fun small => carried ⟨power, notLeast, small⟩
    refine ofRatio?_of_parts numPos x.canonical
      (scaleOf_eq numPos denPos x.canonical.2.1 nearest.lt_two_zpow above) ?_
    refine roundQuotient_scale_eq denPos nearest.half_below nearest.high fun isOdd =>
      ⟨?_, (nearest.odd isOdd).2⟩
    refine lt_of_le_of_lt ?_ (nearest.odd isOdd).1
    have reach := x.reachBelow_le
    unfold lowerEnd
    gcongr

/-! ## The interval of a double -/

theorem interval_unit_pos (x : Binary64) : (0 : ℚ) < x.interval.unit := by
  simp [interval, Nat.pow_eq]

/-- The unit of an interval is a quarter of that of the last place. -/
theorem interval_scale (x : Binary64) :
    (2 : ℚ) ^ (x.exponent - 2).toNat / 2 ^ (2 - x.exponent).toNat = 2 ^ x.exponent / 4 := by
  have quarter := zpow_eq_div (two_ne_zero : (2 : ℚ) ≠ 0) (x.exponent - 2)
  rw [neg_sub] at quarter
  rw [← quarter, zpow_sub₀ two_ne_zero]
  norm_num

theorem interval_least (nonzero : x.mantissa ≠ 0) :
    (x.interval.least : ℚ) / x.interval.unit = x.lowerEnd := by
  have one_le : 1 ≤ x.mantissa := Nat.one_le_iff_ne_zero.mpr nonzero
  have reach : ((4 * x.mantissa -
      if x.mantissa = Nat.pow 2 52 ∧ x.exponent ≠ -1074 then 1 else 2 : ℕ) : ℚ) =
        4 * (x.mantissa - x.reachBelow) := by
    unfold reachBelow
    split
    · rw [Nat.cast_sub (by omega)]; push_cast; ring
    · rw [Nat.cast_sub (by omega)]; push_cast; ring
  simp only [interval, lowerEnd, Nat.pow_eq, Nat.cast_mul, Nat.cast_pow, Nat.cast_ofNat,
    mul_div_assoc, interval_scale]
  rw [reach]
  ring

theorem interval_value (x : Binary64) :
    (x.interval.value : ℚ) / x.interval.unit = x.magnitude := by
  simp only [interval, magnitude, Nat.pow_eq, Nat.cast_mul, Nat.cast_pow, Nat.cast_ofNat,
    mul_div_assoc, interval_scale]
  ring

theorem interval_greatest (x : Binary64) :
    (x.interval.greatest : ℚ) / x.interval.unit = x.upperEnd := by
  simp only [interval, upperEnd, Nat.pow_eq, Nat.cast_mul, Nat.cast_pow, Nat.cast_ofNat,
    mul_div_assoc, interval_scale, Nat.cast_add]
  ring

/-- The interval of a double holds the fractions that are nearest to it. -/
theorem contains_interval_iff (nonzero : x.mantissa ≠ 0) {num den : ℕ}
    (denPos : 0 < den) : x.interval.contains num den = true ↔ x.Nearest (num / den) := by
  have denPos' : (0 : ℚ) < den := by exact_mod_cast denPos
  have unitPos := x.interval_unit_pos
  have least_le : x.interval.least * den ≤ num * x.interval.unit ↔
      x.lowerEnd ≤ (num : ℚ) / den := by
    rw [← interval_least nonzero, div_le_div_iff₀ unitPos denPos']; norm_cast
  have le_greatest : num * x.interval.unit ≤ x.interval.greatest * den ↔
      (num : ℚ) / den ≤ x.upperEnd := by
    rw [← interval_greatest, div_le_div_iff₀ denPos' unitPos]; norm_cast
  have least_lt : x.interval.least * den < num * x.interval.unit ↔
      x.lowerEnd < (num : ℚ) / den := by
    rw [← interval_least nonzero, div_lt_div_iff₀ unitPos denPos']; norm_cast
  have lt_greatest : num * x.interval.unit < x.interval.greatest * den ↔
      (num : ℚ) / den < x.upperEnd := by
    rw [← interval_greatest, div_lt_div_iff₀ denPos' unitPos]; norm_cast
  have closed : x.interval.closed = true ↔ x.mantissa % 2 = 0 := by simp [interval]
  by_cases even : x.mantissa % 2 = 0
  · simp only [Interval.contains, closed.mpr even, if_true, Bool.and_eq_true, decide_eq_true_eq,
      least_le, le_greatest]
    exact ⟨fun inside => ⟨inside.1, inside.2, by omega⟩, fun inside => ⟨inside.low, inside.high⟩⟩
  · simp only [Interval.contains, mt closed.mp even, Bool.false_eq_true, Bool.and_eq_true,
      decide_eq_true_eq, least_lt, lt_greatest, if_false]
    exact ⟨fun inside => ⟨inside.1.le, inside.2.le, fun _ => inside⟩,
      fun inside => inside.odd (by omega)⟩

end Transcript.Binary64
