import Mathlib.Data.Nat.Cast.Order.Field
import Transcript.Proofs.Numeric.Nearest

/-! # The shortest decimal is near

The decimal that is written for a double lies in the interval of the double
(`Binary64.nearest_shortest`), and its coefficient fits 64 bits (`Binary64.coefficient_shortest_lt`).

For the first, a grid has a point in the interval as soon as its step is at most half a unit of the
last place (`onGrid?_isSome`). The last of the twenty grids that are tried is that fine for every
exponent of the format (`ten_zpow_le`). For the second, it is still so coarse that the largest
magnitude of the double's number of bits is less than `2 ^ 64` steps (`two_zpow_le`).
-/

namespace Transcript

def Decimal.value (d : Decimal) : ℚ := d.coefficient * 10 ^ d.exponent

namespace Binary64

theorem ten_ne_zero : (10 : ℚ) ≠ 0 := by norm_num

/-- A fraction of the form in which a decimal is rounded. -/
theorem decimal_fraction (c : ℕ) (k : ℤ) :
    ((c * Nat.pow 10 k.toNat : ℕ) : ℚ) / (Nat.pow 10 (-k).toNat : ℕ) = c * 10 ^ k := by
  rw [zpow_eq_div ten_ne_zero k]
  simp only [Nat.pow_eq, Nat.cast_mul, Nat.cast_pow, Nat.cast_ofNat, mul_div_assoc]

theorem nat_pow_ten_pos (k : ℕ) : 0 < Nat.pow 10 k := Nat.pos_of_ne_zero (by simp [Nat.pow_eq])

/-! ## A point on a grid -/

/-- Powers of ten and of two compare as their exponents do, in one direction by `10 ^ 59 ≤ 2 ^ 196`. -/
theorem ten_pow_le_two_pow {n m : ℕ} (small : 196 * n ≤ 59 * m) : 10 ^ n ≤ 2 ^ m := by
  refine (Nat.pow_le_pow_iff_left (n := 196) (by norm_num)).mp ?_
  calc (10 ^ n) ^ 196 = 10 ^ (196 * n) := by rw [← Nat.pow_mul, Nat.mul_comm]
    _ ≤ 10 ^ (59 * m) := Nat.pow_le_pow_right (by norm_num) small
    _ = (10 ^ 59) ^ m := Nat.pow_mul 10 59 m
    _ ≤ (2 ^ 196) ^ m := Nat.pow_le_pow_left (by norm_num) m
    _ = (2 ^ m) ^ 196 := by rw [← Nat.pow_mul, ← Nat.pow_mul, Nat.mul_comm]

/-- And in the other direction by `2 ^ 93 ≤ 10 ^ 28`. -/
theorem two_pow_le_ten_pow {n m : ℕ} (small : 28 * n ≤ 93 * m) : 2 ^ n ≤ 10 ^ m := by
  refine (Nat.pow_le_pow_iff_left (n := 93) (by norm_num)).mp ?_
  calc (2 ^ n) ^ 93 = (2 ^ 93) ^ n := by rw [← Nat.pow_mul, ← Nat.pow_mul, Nat.mul_comm]
    _ ≤ (10 ^ 28) ^ n := Nat.pow_le_pow_left (by norm_num) n
    _ = 10 ^ (28 * n) := (Nat.pow_mul 10 28 n).symm
    _ ≤ 10 ^ (93 * m) := Nat.pow_le_pow_right (by norm_num) small
    _ = (10 ^ m) ^ 93 := by rw [← Nat.pow_mul, Nat.mul_comm]

/-- A grid that is fine enough for a double, by the exponent of the double. -/
theorem ten_zpow_le {e k : ℤ} (least : -1074 ≤ e) (greatest : e ≤ 971)
    (small : k ≤ (e + 53) * 30103 / 100000 - 18) : (10 : ℚ) ^ k ≤ 2 ^ (e - 1) := by
  rcases lt_or_ge k 0 with negative | positive
  · rcases lt_or_ge e 1 with small' | large
    · obtain ⟨m, rfl⟩ : ∃ m : ℕ, k = -m := ⟨k.natAbs, by omega⟩
      obtain ⟨n, exponent⟩ : ∃ n : ℕ, e - 1 = -n := ⟨(e - 1).natAbs, by omega⟩
      rw [exponent, zpow_neg, zpow_neg, zpow_natCast, zpow_natCast]
      gcongr
      exact_mod_cast two_pow_le_ten_pow (n := n) (m := m) (by omega)
    · calc (10 : ℚ) ^ k ≤ 1 := zpow_le_one_of_nonpos₀ (by norm_num) negative.le
        _ ≤ 2 ^ (e - 1) := one_le_zpow₀ (by norm_num) (by omega)
  · obtain ⟨n, rfl⟩ : ∃ n : ℕ, k = n := ⟨k.toNat, by omega⟩
    obtain ⟨m, exponent⟩ : ∃ m : ℕ, e - 1 = m := ⟨(e - 1).toNat, by omega⟩
    rw [exponent, zpow_natCast, zpow_natCast]
    exact_mod_cast ten_pow_le_two_pow (n := n) (m := m) (by omega)

/-- The finest grid that is tried has few points below a power of two. -/
theorem two_zpow_le {bits : ℤ} (least : -1074 ≤ bits) (greatest : bits ≤ 1024) :
    (2 : ℚ) ^ bits ≤ 2 ^ 64 * 10 ^ (bits * 30103 / 100000 - 18) := by
  have shifted : (2 : ℚ) ^ bits = 2 ^ 64 * 2 ^ (bits - 64) := by
    rw [← zpow_natCast, ← zpow_add₀ two_ne_zero]
    congr 1
    omega
  rw [shifted]
  gcongr
  rcases lt_or_ge bits 64 with small | large
  · obtain ⟨n, places⟩ : ∃ n : ℕ, bits * 30103 / 100000 - 18 = -n :=
      ⟨(bits * 30103 / 100000 - 18).natAbs, by omega⟩
    obtain ⟨m, exponent⟩ : ∃ m : ℕ, bits - 64 = -m := ⟨(bits - 64).natAbs, by omega⟩
    rw [places, exponent, zpow_neg, zpow_neg, zpow_natCast, zpow_natCast]
    gcongr
    exact_mod_cast ten_pow_le_two_pow (n := n) (m := m) (by omega)
  · obtain ⟨n, exponent⟩ : ∃ n : ℕ, bits - 64 = n := ⟨(bits - 64).toNat, by omega⟩
    obtain ⟨m, places⟩ : ∃ m : ℕ, bits * 30103 / 100000 - 18 = m :=
      ⟨(bits * 30103 / 100000 - 18).toNat, by omega⟩
    rw [places, exponent, zpow_natCast, zpow_natCast]
    exact_mod_cast two_pow_le_ten_pow (n := n) (m := m) (by omega)

/-- The points of a grid on either side of a double. -/
theorem grid_around (x : Binary64) (k : ℤ) : ∃ n : ℕ,
    n = x.interval.value * Nat.pow 10 (-k).toNat / (x.interval.unit * Nat.pow 10 k.toNat) ∧
      (n : ℚ) * 10 ^ k ≤ x.magnitude ∧ x.magnitude < (n + 1 : ℕ) * 10 ^ k := by
  have denPos : 0 < x.interval.unit * Nat.pow 10 k.toNat :=
    Nat.mul_pos (by exact_mod_cast x.interval_unit_pos) (nat_pow_ten_pos _)
  have step : (0 : ℚ) < 10 ^ k := by positivity
  have ratio : ((x.interval.value * Nat.pow 10 (-k).toNat : ℕ) : ℚ) /
      (x.interval.unit * Nat.pow 10 k.toNat : ℕ) = x.magnitude / 10 ^ k := by
    have := x.interval_unit_pos
    rw [← interval_value, zpow_eq_div ten_ne_zero k]
    simp only [Nat.pow_eq, Nat.cast_mul, Nat.cast_pow, Nat.cast_ofNat]
    field_simp
  refine ⟨_, rfl, ?_, ?_⟩
  · rw [← le_div_iff₀ step, ← ratio]
    exact Nat.cast_div_le
  · rw [← div_lt_iff₀ step, ← ratio, div_lt_iff₀ (by exact_mod_cast denPos)]
    have next := Nat.lt_mul_div_succ (x.interval.value * Nat.pow 10 (-k).toNat) denPos
    rw [Nat.mul_comm (x.interval.unit * _)] at next
    exact_mod_cast next

theorem exponent_of_onGrid? {x : Binary64} {k : ℤ} {d : Decimal}
    (found : x.interval.onGrid? k = some d) : d.exponent = k := by
  simp only [Interval.onGrid?] at found
  split at found <;> cases found <;> rfl

theorem log2_mantissa_lt (x : Binary64) : x.mantissa.log2 < 53 := by
  by_cases zero : x.mantissa = 0
  · rw [zero]
    decide
  · exact (Nat.log2_lt zero).mpr x.canonical.1

section Positive

variable {x : Binary64} (nonzero : x.mantissa ≠ 0)

include nonzero

theorem contains_grid_iff (n : ℕ) (k : ℤ) :
    x.interval.contains (n * Nat.pow 10 k.toNat) (Nat.pow 10 (-k).toNat) = true ↔
      x.Nearest (n * 10 ^ k) := by
  rw [contains_interval_iff nonzero (nat_pow_ten_pos _), decimal_fraction]

theorem nearest_of_onGrid? {k : ℤ} {d : Decimal} (found : x.interval.onGrid? k = some d) :
    x.Nearest d.value := by
  simp only [Interval.onGrid?] at found
  split at found
  · next below above =>
    rw [contains_grid_iff nonzero] at below above
    cases found
    dsimp only [Decimal.value]
    split
    · exact below
    · exact above
  · next below _ =>
    rw [contains_grid_iff nonzero] at below
    cases found
    exact below
  · next _ above =>
    rw [contains_grid_iff nonzero] at above
    cases found
    exact above
  · cases found

/-- A grid whose step is at most half a unit of the last place has a point in the interval. -/
theorem onGrid?_isSome {k : ℤ} (fine : (10 : ℚ) ^ k ≤ 2 ^ (x.exponent - 1)) :
    (x.interval.onGrid? k).isSome = true := by
  obtain ⟨n, chosen, low, high⟩ := x.grid_around k
  have below := x.lowerEnd_lt_magnitude
  have above := x.upperEnd_eq
  have inside : x.Nearest (n * 10 ^ k) ∨ x.Nearest ((n + 1 : ℕ) * 10 ^ k) := by
    rcases low.eq_or_lt with on | off
    · left
      rw [on]
      have := lt_of_lt_of_le (show (0 : ℚ) < 10 ^ k by positivity) fine
      exact ⟨below.le, by linarith, fun _ => ⟨below, by linarith⟩⟩
    · right
      have next : ((n + 1 : ℕ) : ℚ) * 10 ^ k < x.upperEnd := by
        push_cast
        linarith
      exact ⟨by linarith, next.le, fun _ => ⟨by linarith, next⟩⟩
  rw [← contains_grid_iff nonzero, ← contains_grid_iff nonzero] at inside
  simp only [Interval.onGrid?, ← chosen]
  rcases inside with inside | inside
  · cases other : x.interval.contains ((n + 1) * Nat.pow 10 k.toNat) (Nat.pow 10 (-k).toNat) <;>
      simp only [inside, Option.isSome_some]
  · cases other : x.interval.contains (n * Nat.pow 10 k.toNat) (Nat.pow 10 (-k).toNat) <;>
      simp only [inside, Option.isSome_some]

/-- The search ends inside the interval if one of the grids has a point there, and on a grid that is
tried. -/
theorem nearest_search {grids : ℕ} {k : ℤ}
    (found : ∃ j < grids, (x.interval.onGrid? (k - j)).isSome = true) :
    x.Nearest (x.interval.search grids k).value ∧
      k - grids < (x.interval.search grids k).exponent := by
  induction grids generalizing k with
  | zero =>
    obtain ⟨j, impossible, _⟩ := found
    exact absurd impossible (Nat.not_lt_zero j)
  | succ grids ih =>
    rw [Interval.search]
    cases here : x.interval.onGrid? k with
    | some d =>
      refine ⟨nearest_of_onGrid? nonzero here, ?_⟩
      rw [Option.getD_some, exponent_of_onGrid? here]
      omega
    | none =>
      rw [Option.getD_none]
      obtain ⟨_ | j, bound, later⟩ := found
      · simp [here] at later
      · obtain ⟨near, tried⟩ := ih (k := k - 1) ⟨j, by omega, by
          rwa [show k - 1 - (j : ℤ) = k - ((j + 1 : ℕ) : ℤ) by omega]⟩
        exact ⟨near, by omega⟩

/-- The decimal that is written for a double is nearest to it, and its grid is not too fine. -/
theorem nearest_shortest_and_exponent : x.Nearest x.shortest.value ∧
    (x.mantissa.log2 + x.exponent + 1) * 30103 / 100000 - 18 ≤ x.shortest.exponent := by
  have found : ∃ j < 20, (x.interval.onGrid?
      ((x.mantissa.log2 + x.exponent + 1) * 30103 / 100000 + 1 - (j : ℕ))).isSome = true := by
    refine ⟨19, by norm_num, onGrid?_isSome nonzero ?_⟩
    have bits := x.log2_mantissa_lt
    exact ten_zpow_le x.canonical.2.1 x.canonical.2.2.1 (by push_cast; omega)
  have written : x.shortest =
      x.interval.search 20 ((x.mantissa.log2 + x.exponent + 1) * 30103 / 100000 + 1) := if_neg nonzero
  obtain ⟨near, tried⟩ := nearest_search nonzero found
  rw [written]
  exact ⟨near, by omega⟩

/-- The decimal that is written for a double is nearest to it. -/
theorem nearest_shortest : x.Nearest x.shortest.value := (nearest_shortest_and_exponent nonzero).1

end Positive

/-! ## The size of a decimal -/

/-- A double is less than the power of two that its bits say, and so is what is nearest to it. -/
theorem upperEnd_lt_two_zpow (x : Binary64) :
    x.upperEnd < 2 ^ (x.mantissa.log2 + x.exponent + 1 : ℤ) := by
  have below : x.mantissa + 1 ≤ 2 ^ (x.mantissa.log2 + 1) := Nat.lt_log2_self
  have below : (x.mantissa : ℚ) + 1 ≤ 2 ^ (x.mantissa.log2 + 1) := by exact_mod_cast below
  calc x.upperEnd < 2 ^ (x.mantissa.log2 + 1) * 2 ^ x.exponent := by
        unfold upperEnd
        gcongr
        linarith
    _ = 2 ^ (x.mantissa.log2 + x.exponent + 1 : ℤ) := by
        rw [← zpow_natCast, ← zpow_add₀ two_ne_zero]
        congr 1
        push_cast
        ring

/-- The coefficient that is written fits 64 bits. -/
theorem coefficient_shortest_lt (x : Binary64) : x.shortest.coefficient < UInt64.size := by
  by_cases nonzero : x.mantissa = 0
  · rw [shortest, if_pos nonzero]
    decide
  obtain ⟨near, coarse⟩ := nearest_shortest_and_exponent nonzero
  have bits := x.log2_mantissa_lt
  have canonical := x.canonical
  have step : (0 : ℚ) < 10 ^ x.shortest.exponent := by positivity
  have few : (x.shortest.coefficient : ℚ) * 10 ^ x.shortest.exponent <
      2 ^ 64 * 10 ^ x.shortest.exponent := by
    calc (x.shortest.coefficient : ℚ) * 10 ^ x.shortest.exponent ≤ x.upperEnd := near.high
      _ < 2 ^ (x.mantissa.log2 + x.exponent + 1 : ℤ) := x.upperEnd_lt_two_zpow
      _ ≤ 2 ^ 64 * 10 ^ ((x.mantissa.log2 + x.exponent + 1) * 30103 / 100000 - 18) :=
          two_zpow_le (by omega) (by omega)
      _ ≤ 2 ^ 64 * 10 ^ x.shortest.exponent := by
          gcongr
          norm_num
  have few : (x.shortest.coefficient : ℚ) < 2 ^ 64 := lt_of_mul_lt_mul_right few step.le
  exact_mod_cast few

theorem ten_pow_le_of_length {c : ℕ} (positive : 0 < c) :
    10 ^ ((Nat.toDigits 10 c).length - 1) ≤ c := by
  have some_digit : 0 < (Nat.toDigits 10 c).length := Nat.length_toDigits_pos
  rcases Nat.eq_or_lt_of_le some_digit with one | more
  · rw [← one]
    exact positive
  · by_contra small
    have := (Nat.length_toDigits_le_iff (by norm_num) (by omega)).mpr (not_le.mp small)
    omega

theorem lt_ten_pow_length (c : ℕ) : c < 10 ^ (Nat.toDigits 10 c).length :=
  (Nat.length_toDigits_le_iff (by norm_num) Nat.length_toDigits_pos).mp le_rfl

/-- Nothing that is nearest to a double is as small as the smallest powers of ten. -/
theorem ten_zpow_le_lowerEnd (x : Binary64) (nonzero : x.mantissa ≠ 0) :
    (10 : ℚ) ^ (-324 : ℤ) ≤ x.lowerEnd := by
  have one_le := one_le_mantissa nonzero
  have reach := x.reachBelow_le
  calc (10 : ℚ) ^ (-324 : ℤ) ≤ 2 ^ (-1075 : ℤ) := by
        rw [zpow_neg, zpow_neg]
        gcongr
        exact_mod_cast two_pow_le_ten_pow (n := 1075) (m := 324) (by norm_num)
    _ = 1 / 2 * 2 ^ (-1074 : ℤ) := by
        rw [show (-1075 : ℤ) = -1074 - 1 by norm_num, zpow_sub_one₀ two_ne_zero]
        ring
    _ ≤ (x.mantissa - x.reachBelow) * 2 ^ x.exponent := by
        have half : 1 / 2 ≤ x.mantissa - x.reachBelow := by linarith
        have unit : (2 : ℚ) ^ (-1074 : ℤ) ≤ 2 ^ x.exponent :=
          zpow_le_zpow_right₀ one_le_two x.canonical.2.1
        gcongr

/-- And nothing is as large as the largest ones. -/
theorem upperEnd_lt (x : Binary64) : x.upperEnd < (10 : ℚ) ^ (309 : ℤ) := by
  have bound := x.mantissa_add_one_le
  calc (x.mantissa + 1 / 2) * 2 ^ x.exponent < (2 : ℚ) ^ 53 * 2 ^ x.exponent := by
        gcongr
        linarith
    _ ≤ 2 ^ 53 * 2 ^ (971 : ℤ) := by
        have unit : (2 : ℚ) ^ x.exponent ≤ 2 ^ (971 : ℤ) :=
          zpow_le_zpow_right₀ one_le_two x.canonical.2.2.1
        gcongr
    _ = 2 ^ (1024 : ℤ) := by
        rw [← zpow_natCast, ← zpow_add₀ two_ne_zero]
        norm_num
    _ ≤ 10 ^ (309 : ℤ) := by
        exact_mod_cast two_pow_le_ten_pow (n := 1024) (m := 309) (by norm_num)

/-- The first digit of a decimal nearest to a double stands for a power of ten near the format. -/
theorem magnitude_mem {x : Binary64} (nonzero : x.mantissa ≠ 0) {c : ℕ} {k : ℤ}
    (nearest : x.Nearest (c * 10 ^ k)) :
    -330 ≤ ((Nat.toDigits 10 c).length : ℤ) + k ∧ ((Nat.toDigits 10 c).length : ℤ) + k ≤ 310 := by
  have some_digit : 0 < (Nat.toDigits 10 c).length := Nat.length_toDigits_pos
  have positive : 0 < c := nearest.coefficient_pos nonzero
  have lower : (c : ℚ) < 10 ^ (Nat.toDigits 10 c).length := by exact_mod_cast lt_ten_pow_length c
  have upper : (10 : ℚ) ^ ((Nat.toDigits 10 c).length - 1) ≤ c := by
    exact_mod_cast ten_pow_le_of_length positive
  have least := (x.ten_zpow_le_lowerEnd nonzero).trans nearest.low
  have greatest := lt_of_le_of_lt nearest.high x.upperEnd_lt
  constructor
  · have : (10 : ℚ) ^ (-324 : ℤ) < 10 ^ (((Nat.toDigits 10 c).length : ℤ) + k) := by
      refine lt_of_le_of_lt least ?_
      rw [zpow_add₀ ten_ne_zero, zpow_natCast]
      gcongr
    have := (zpow_lt_zpow_iff_right₀ (by norm_num)).mp this
    omega
  · have : (10 : ℚ) ^ ((((Nat.toDigits 10 c).length - 1 : ℕ) : ℤ) + k) < 10 ^ (309 : ℤ) := by
      refine lt_of_le_of_lt ?_ greatest
      rw [zpow_add₀ ten_ne_zero, zpow_natCast]
      gcongr
    have := (zpow_lt_zpow_iff_right₀ (by norm_num)).mp this
    omega

end Binary64

end Transcript
