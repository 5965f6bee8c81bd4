import Transcript.Proofs.Numeric.Nearest

/-! # A decimal of few digits is read exactly

`Binary64.ofParts?` rounds a significand, a power of ten, and then their product or quotient. A
significand below `2 ^ 53` and a power up to `10 ^ 22` are doubles themselves (`exists_ofRatio?_eq`).
So of the three roundings only the last one loses anything, and the double that is found is the one
nearest to the decimal (`ofParts?_eq_some`). Any larger significand or power can put it one place off.
-/

namespace Transcript.Binary64

/-! ## Exact operands -/

/-- An integer of 53 bits times a power of two is the magnitude of a double. -/
theorem exists_magnitude_eq {m e : ℕ} (positive : 0 < m) (short : m < 2 ^ 53) (small : e ≤ 900) :
    ∃ x : Binary64, x.negative = false ∧ x.mantissa ≠ 0 ∧ x.magnitude = (m * 2 ^ e : ℕ) := by
  have bits : m.log2 < 53 := (Nat.log2_lt positive.ne').mpr short
  have low : 2 ^ m.log2 ≤ m := Nat.log2_self_le positive.ne'
  have high : m < 2 ^ (m.log2 + 1) := Nat.lt_log2_self
  -- The mantissa is shifted until it has all its bits.
  generalize shifted : 52 - m.log2 = shift
  have full : 2 ^ m.log2 * 2 ^ shift = 2 ^ 52 := by rw [← Nat.pow_add]; congr 1; omega
  have enough : 2 ^ 52 ≤ m * 2 ^ shift := full ▸ Nat.mul_le_mul_right _ low
  have fits : m * 2 ^ shift < 2 ^ 53 := by
    calc m * 2 ^ shift < 2 ^ (m.log2 + 1) * 2 ^ shift := Nat.mul_lt_mul_of_pos_right high (by positivity)
      _ = 2 ^ 53 := by rw [Nat.pow_succ, Nat.mul_right_comm, full, ← Nat.pow_succ]
  refine ⟨⟨false, m * 2 ^ shift, e - shift, fits, by omega, by omega, .inl enough⟩, rfl, ?_, ?_⟩
  · exact (lt_of_lt_of_le (by norm_num) enough).ne'
  · simp only [magnitude, Nat.cast_mul, Nat.cast_pow, Nat.cast_ofNat]
    rw [zpow_sub₀ two_ne_zero, zpow_natCast, zpow_natCast]
    field_simp

/-- Such an integer is rounded to itself. -/
theorem exists_ofRatio?_eq {m e : ℕ} (positive : 0 < m) (short : m < 2 ^ 53) (small : e ≤ 900) :
    ∃ x, ofRatio? false (m * 2 ^ e) 1 = some x ∧ x.negative = false ∧
      x.magnitude = (m * 2 ^ e : ℕ) := by
  obtain ⟨x, sign, nonzero, size⟩ := exists_magnitude_eq positive short small
  have near : x.Nearest ((m * 2 ^ e : ℕ) / (1 : ℕ)) := by
    rw [← size, Nat.cast_one, div_one]
    exact x.nearest_magnitude
  exact ⟨x, sign ▸ ofRatio?_eq_some nonzero Nat.one_pos near, sign, size⟩

theorem exists_powerOfTen?_eq {places : ℕ} (few : places ≤ 22) :
    ∃ x, powerOfTen? places = some x ∧ x.negative = false ∧ x.magnitude = 10 ^ places := by
  have short : 5 ^ places < 2 ^ 53 :=
    lt_of_le_of_lt (Nat.pow_le_pow_right (by norm_num) few) (by norm_num)
  have split : 5 ^ places * 2 ^ places = 10 ^ places := by rw [← Nat.mul_pow]
  obtain ⟨x, rounded, sign, size⟩ :=
    exists_ofRatio?_eq (e := places) (by positivity) short (by omega)
  rw [split] at rounded size
  refine ⟨x, ?_, sign, by rw [size]; norm_num⟩
  rwa [powerOfTen?, if_pos (by omega)]

/-! ## The last rounding -/

theorem ratio_eq (x : Binary64) : (x.ratio.1 : ℚ) / x.ratio.2 = x.magnitude := by
  rw [ratio, scale_div, zpow_neg, magnitude, Nat.cast_one, div_one, div_inv_eq_mul]

theorem ratio_snd_pos (x : Binary64) : 0 < x.ratio.2 := scale_snd_pos Nat.one_pos _

theorem ratio_fst_pos {x : Binary64} (positive : 0 < x.magnitude) : 0 < x.ratio.1 := by
  rw [← ratio_eq] at positive
  have bottom : (0 : ℚ) < x.ratio.2 := by exact_mod_cast x.ratio_snd_pos
  exact_mod_cast (div_pos_iff_of_pos_right bottom).mp positive

theorem isZero_eq_false {x : Binary64} (positive : 0 < x.magnitude) : x.isZero = false := by
  rw [isZero, beq_eq_false_iff_ne]
  intro zero
  simp [magnitude, zero] at positive

variable {x y z : Binary64}

/-- A product is the double nearest to it. -/
theorem mul?_eq_some (nonzero : z.mantissa ≠ 0) (sign : (x.negative != y.negative) = z.negative)
    (near : z.Nearest (x.magnitude * y.magnitude)) : x.mul? y = some z := by
  rw [mul?, sign]
  refine ofRatio?_eq_some nonzero (Nat.mul_pos x.ratio_snd_pos y.ratio_snd_pos) ?_
  rwa [Nat.cast_mul, Nat.cast_mul, mul_div_mul_comm, ratio_eq, ratio_eq]

/-- And so is a quotient. -/
theorem div?_eq_some (nonzero : z.mantissa ≠ 0) (sign : (x.negative != y.negative) = z.negative)
    (positive : 0 < y.magnitude) (near : z.Nearest (x.magnitude / y.magnitude)) :
    x.div? y = some z := by
  rw [div?, sign]
  refine ofRatio?_eq_some nonzero (Nat.mul_pos x.ratio_snd_pos (ratio_fst_pos positive)) ?_
  rwa [Nat.cast_mul, Nat.cast_mul, mul_div_mul_comm, ratio_eq, ← inv_div, ratio_eq, ← div_eq_mul_inv]

/-! ## The decimal -/

/-- An exact number is moved by few places to the double nearest to the decimal. -/
theorem shift?_eq_some {k : ℤ} (nonzero : z.mantissa ≠ 0) (sign : x.negative = z.negative)
    (places : k.natAbs ≤ 22) (near : z.Nearest (x.magnitude * 10 ^ k)) : x.shift? k = some z := by
  obtain ⟨power, known, unsigned, size⟩ := exists_powerOfTen?_eq places
  have sign : (x.negative != power.negative) = z.negative := by rw [unsigned, sign, Bool.bne_false]
  have power_pos : 0 < power.magnitude := by rw [size]; positivity
  have positive : 0 < x.magnitude :=
    (mul_pos_iff_of_pos_right (by positivity)).mp (near.pos nonzero)
  rw [shift?]
  split
  · next right =>
    have exponent : k.toNat = k.natAbs := by omega
    rw [raise?, isZero_eq_false positive, if_neg Bool.false_ne_true, exponent, known, Option.bind_some]
    refine mul?_eq_some nonzero sign ?_
    rwa [size, ← zpow_natCast, ← exponent, Int.toNat_of_nonneg right]
  · next left =>
    have exponent : (-k).toNat = k.natAbs := by omega
    rw [lower?, if_pos (by omega), exponent, known, Option.bind_some]
    refine div?_eq_some nonzero sign power_pos ?_
    rwa [size, ← zpow_natCast, div_eq_mul_inv, ← zpow_neg, ← exponent,
      Int.toNat_of_nonneg (by omega), neg_neg]

/-- A decimal other than zero is read as the double nearest to it. -/
theorem ofParts?_eq_some (nonzero : x.mantissa ≠ 0) {c : ℕ} {k : ℤ} (few : c < 2 ^ 53)
    (places : k.natAbs ≤ 22) (near : x.Nearest (c * 10 ^ k)) : ofParts? x.negative c k = some x := by
  obtain ⟨whole, rounded, sign, size⟩ :=
    exists_ofRatio?_eq (e := 0) (near.coefficient_pos nonzero) few (by omega)
  rw [Nat.pow_zero, Nat.mul_one] at rounded size
  -- The sign is put on last.
  let found : Binary64 := { x with negative := false }
  have near : found.Nearest (whole.magnitude * 10 ^ k) := by
    rw [size]
    exact ⟨near.low, near.high, near.odd⟩
  have shifted : whole.shift? k = some found := shift?_eq_some nonzero sign places near
  rw [ofParts?, rounded, Option.bind_eq_bind, Option.bind_some, shifted]
  rfl

/-- And zero as zero. -/
theorem ofParts?_zero (negative : Bool) {k : ℤ} (places : k.natAbs ≤ 22) :
    ofParts? negative 0 k = some (zero negative) := by
  obtain ⟨power, known, unsigned, -⟩ := exists_powerOfTen?_eq places
  have shifted : (zero false).shift? k = some (zero false) := by
    rw [shift?]
    split
    · rfl
    · have exponent : (-k).toNat = k.natAbs := by omega
      have none : (zero false).ratio.1 = 0 := Nat.zero_mul _
      rw [lower?, if_pos (by omega), exponent, known, Option.bind_some, div?, none, Nat.zero_mul,
        ofRatio?_zero, unsigned]
      rfl
  rw [ofParts?, ofRatio?_zero, Option.bind_eq_bind, Option.bind_some, shifted]
  rfl

end Transcript.Binary64
