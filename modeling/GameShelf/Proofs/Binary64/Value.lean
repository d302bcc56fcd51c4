import GameShelf.Proofs.Binary64.Monotone
import Mathlib.Data.EReal.Basic

/-!
# Values as extended real numbers

A number that is not a NaN has a real value or is one of the two infinities. Rounding a whole number
never takes it past such a number: what is not greater than the value is not rounded to anything
greater, and what is not less is not rounded to anything less, since the value of a finite number is
rounded to the number itself. Whole numbers of at most `2 ^ 53` in absolute value are not changed by
rounding at all.
-/

namespace GameShelf.Binary64

/-! ## Values -/

/-- The significand, with its leading bit unless the number is of the least exponent. -/
def significand (x : Binary64) : Nat :=
  if x.exponent = 0 then x.fraction else fractionCount + x.fraction

/-- The value of a number that is not a NaN, by the fields of the format. -/
noncomputable def value (x : Binary64) : EReal :=
  if x.isFinite then
    (((if x.negative then -1 else 1) * x.significand *
      2 ^ ((max x.exponent 1 : ℤ) - 1075) : ℝ) : EReal)
  else if x.negative then ⊥ else ⊤

/-- What one is as a multiple of `2⁻¹⁰⁷⁴`. -/
def unit : Nat := 1 <<< 1074

variable {x : Binary64}

theorem cast_one_shiftLeft (k : ℕ) : ((1 <<< k : ℕ) : ℝ) = 2 ^ (k : ℤ) := by
  rw [Nat.one_shiftLeft, Nat.cast_pow, zpow_natCast, Nat.cast_ofNat]

theorem cast_unit_pos : (0 : ℝ) < unit := by
  rw [unit, cast_one_shiftLeft]
  exact zpow_pos two_pos _

theorem magnitude_eq (x : Binary64) :
    x.magnitude = x.significand * 2 ^ (max x.exponent 1 - 1) := by
  unfold magnitude significand
  by_cases hzero : x.exponent = 0
  · rw [if_pos hzero, if_pos hzero, hzero]
    exact (Nat.mul_one _).symm
  · rw [if_neg hzero, if_neg hzero, Nat.shiftLeft_eq, Nat.max_eq_left (by omega)]

/-- The value of a finite number is the multiple of `2⁻¹⁰⁷⁴` that it is compared by. -/
theorem value_of_isFinite (h : x.isFinite = true) : x.value = ((x.scaled / unit : ℝ) : EReal) := by
  have hsign : (x.scaled : ℝ) = (if x.negative then -1 else 1) * (x.magnitude : ℝ) := by
    unfold scaled
    cases x.negative <;> simp
  have hpower : (2 : ℝ) ^ ((max x.exponent 1 : ℤ) - 1075) =
      2 ^ (max x.exponent 1 - 1) / unit := by
    rw [unit, cast_one_shiftLeft, ← zpow_natCast, ← zpow_sub₀ two_ne_zero]
    congr 1
    omega
  rw [value, if_pos h, hpower, hsign, magnitude_eq, Nat.cast_mul, Nat.cast_pow, Nat.cast_ofNat,
    mul_div_assoc', mul_assoc]

theorem value_of_not_isFinite (h : x.isFinite = false) :
    x.value = if x.negative then ⊥ else ⊤ := by
  rw [value, h]
  rfl

theorem intCast_le_value_iff (h : x.isFinite = true) {n : ℤ} :
    ((n : ℝ) : EReal) ≤ x.value ↔ n * unit ≤ x.scaled := by
  rw [value_of_isFinite h, EReal.coe_le_coe_iff, le_div_iff₀ cast_unit_pos]
  exact_mod_cast Iff.rfl

theorem value_le_intCast_iff (h : x.isFinite = true) {n : ℤ} :
    x.value ≤ ((n : ℝ) : EReal) ↔ x.scaled ≤ n * unit := by
  rw [value_of_isFinite h, EReal.coe_le_coe_iff, div_le_iff₀ cast_unit_pos]
  exact_mod_cast Iff.rfl

/-! ## Rounding -/

/-- The number nearest to a multiple of `2⁻¹⁰⁷⁴`. -/
def ofScaled (k : ℤ) : Binary64 :=
  ofRatio (k < 0) k.natAbs unit

theorem unit_pos : 0 < unit := by
  exact_mod_cast cast_unit_pos

theorem ofInt_eq_ofScaled (n : ℤ) : ofInt n = ofScaled (n * unit) := by
  have hunit : (0 : ℤ) < unit := Int.natCast_pos.2 unit_pos
  have hsign : n * unit < 0 ↔ n < 0 := by
    rw [← not_le, ← not_le, mul_nonneg_iff_of_pos_right hunit]
  have habs : (n * unit).natAbs = unit * n.natAbs := by
    rw [Int.natAbs_mul, Int.natAbs_natCast, Nat.mul_comm]
  have hpattern := nearestPattern_mul_mul unit_pos n.natAbs 1
  rw [Nat.mul_one] at hpattern
  rw [ofInt, ofScaled, ofRatio, ofRatio, habs, hpattern, decide_eq_decide.2 hsign]

/-- The value of a finite number is rounded to the number itself, or to a zero of the other sign. -/
theorem scaled_ofScaled (h : x.isFinite = true) : (ofScaled x.scaled).scaled = x.scaled := by
  by_cases hzero : x.magnitude = 0
  · have hscaled : x.scaled = 0 := by
      unfold scaled
      rw [hzero]
      exact ite_self _
    have hpattern : nearestPattern (0 : ℤ).natAbs unit = 0 := nearestPattern_zero unit_pos
    rw [hscaled, ofScaled, ofRatio, hpattern]
    rfl
  · have hnegative : decide (x.scaled < 0) = x.negative := by
      unfold scaled
      cases x.negative with
      | true => exact decide_eq_true (by simp; omega)
      | false => exact decide_eq_false (by simp)
    have habs : x.scaled.natAbs = x.magnitude := by
      unfold scaled
      cases x.negative <;> simp
    rw [ofScaled, hnegative, habs, ofRatio, unit, nearestPattern_magnitude h, ofPattern_pattern]

theorem rank_of_not_isFinite (hnan : x.isNaN = false) (h : x.isFinite = false) :
    x.rank = if x.negative then -(infinityPattern : ℤ) - 1 else infinityPattern := by
  have hle := of_decide_eq_false hnan
  have hge := of_decide_eq_false h
  rw [rank, show x.pattern = infinityPattern by omega]

/-- A whole number is rounded to nothing beyond the infinities. -/
theorem rank_ofInt_bounds (n : ℤ) :
    -(infinityPattern : ℤ) - 1 ≤ (ofInt n).rank ∧ (ofInt n).rank ≤ infinityPattern := by
  have hle := nearestPattern_le n.natAbs 1
  unfold ofInt ofRatio
  rw [rank_ofPattern (nearestPattern_lt _ _)]
  split <;> omega

/-- A whole number that is not greater than a number is not rounded to a greater one. -/
theorem scaled_ofInt_le (hnan : x.isNaN = false) {n : ℤ} (h : ((n : ℝ) : EReal) ≤ x.value) :
    (ofInt n).scaled ≤ x.scaled := by
  cases hfinite : x.isFinite with
  | true =>
    rw [← scaled_ofScaled hfinite, ofInt_eq_ofScaled]
    apply scaled_le_of_rank_le
    exact rank_ofRatio_mono ((intCast_le_value_iff hfinite).1 h) unit
  | false =>
    rw [value_of_not_isFinite hfinite] at h
    apply scaled_le_of_rank_le
    rw [rank_of_not_isFinite hnan hfinite]
    cases hnegative : x.negative with
    | true =>
      rw [hnegative] at h
      exact absurd (le_bot_iff.1 h) (EReal.coe_ne_bot _)
    | false => exact (rank_ofInt_bounds n).2

/-- A whole number that is not less than a number is not rounded to a lesser one. -/
theorem le_scaled_ofInt (hnan : x.isNaN = false) {n : ℤ} (h : x.value ≤ ((n : ℝ) : EReal)) :
    x.scaled ≤ (ofInt n).scaled := by
  cases hfinite : x.isFinite with
  | true =>
    rw [← scaled_ofScaled hfinite, ofInt_eq_ofScaled]
    apply scaled_le_of_rank_le
    exact rank_ofRatio_mono ((value_le_intCast_iff hfinite).1 h) unit
  | false =>
    rw [value_of_not_isFinite hfinite] at h
    apply scaled_le_of_rank_le
    rw [rank_of_not_isFinite hnan hfinite]
    cases hnegative : x.negative with
    | true => exact (rank_ofInt_bounds n).1
    | false =>
      rw [hnegative] at h
      exact absurd (top_le_iff.1 h) (EReal.coe_ne_top _)

/-! ## Whole numbers that are not changed -/

/-- A significand of 53 bits and an exponent in the range of finite numbers make a finite number. -/
theorem exists_magnitude_eq {k s : ℕ} (hk : fractionCount ≤ k) (hlt : k < 2 * fractionCount)
    (hs : s < 2046) (negative : Bool) :
    ∃ y : Binary64, y.isFinite = true ∧ y.negative = negative ∧ y.magnitude = k <<< s := by
  have hfinite : k + s * fractionCount < infinityPattern := by
    unfold fractionCount infinityPattern at *
    omega
  have hpattern : k + s * fractionCount < signBit := Nat.lt_trans hfinite (by decide)
  have hexponent : (k + s * fractionCount) / fractionCount = s + 1 := by
    unfold fractionCount at *
    omega
  have hfraction : fractionCount + (k + s * fractionCount) % fractionCount = k := by
    unfold fractionCount at *
    omega
  refine ⟨ofPattern negative (k + s * fractionCount), ?_, negative_ofPattern hpattern, ?_⟩
  · rw [isFinite, pattern_ofPattern hpattern]
    exact decide_eq_true hfinite
  · rw [magnitude, exponent, fraction, pattern_ofPattern hpattern, hexponent, hfraction]
    exact if_neg (Nat.succ_ne_zero s)

theorem exists_shiftLeft_eq {m : ℕ} (hpos : m ≠ 0) (h : m ≤ 2 ^ 53) :
    ∃ k s, fractionCount ≤ k ∧ k < 2 * fractionCount ∧ s < 2046 ∧ k <<< s = m * unit := by
  rcases Nat.lt_or_eq_of_le h with hlt | rfl
  · have hlog : m.log2 ≤ 52 := Nat.le_of_lt_succ ((Nat.log2_lt hpos).2 hlt)
    refine ⟨m <<< (52 - m.log2), 1022 + m.log2, ?_, ?_, by omega, ?_⟩
    · calc
        fractionCount = 2 ^ (m.log2 + (52 - m.log2)) := by
          rw [Nat.add_sub_cancel' hlog]
          rfl
        _ = 2 ^ m.log2 * 2 ^ (52 - m.log2) := Nat.pow_add 2 _ _
        _ ≤ m * 2 ^ (52 - m.log2) := Nat.mul_le_mul_right _ (Nat.log2_self_le hpos)
        _ = m <<< (52 - m.log2) := (Nat.shiftLeft_eq _ _).symm
    · calc
        m <<< (52 - m.log2) = m * 2 ^ (52 - m.log2) := Nat.shiftLeft_eq _ _
        _ < 2 ^ (m.log2 + 1) * 2 ^ (52 - m.log2) :=
          Nat.mul_lt_mul_of_pos_right Nat.lt_log2_self (Nat.two_pow_pos _)
        _ = 2 ^ (m.log2 + 1 + (52 - m.log2)) := (Nat.pow_add 2 _ _).symm
        _ = 2 * fractionCount := by
          rw [show m.log2 + 1 + (52 - m.log2) = 53 by omega]
          rfl
    · rw [← Nat.shiftLeft_add, show 52 - m.log2 + (1022 + m.log2) = 1074 by omega, unit,
        Nat.shiftLeft_eq, Nat.one_shiftLeft]
  · exact ⟨fractionCount, 1075, Nat.le_refl _, by decide, by decide, by decide +kernel⟩

/-- A whole number of at most `2 ^ 53` in absolute value is the value of a finite number. -/
theorem exists_scaled_eq {n : ℤ} (h : n.natAbs ≤ 2 ^ 53) :
    ∃ y : Binary64, y.isFinite = true ∧ y.scaled = n * unit := by
  by_cases hzero : n = 0
  · refine ⟨zero, by decide, ?_⟩
    rw [hzero, Int.zero_mul]
    decide
  · obtain ⟨k, s, hk, hlt, hs, hvalue⟩ := exists_shiftLeft_eq (Int.natAbs_ne_zero.2 hzero) h
    obtain ⟨y, hfinite, hnegative, hmagnitude⟩ := exists_magnitude_eq hk hlt hs (n < 0)
    refine ⟨y, hfinite, ?_⟩
    rw [scaled, hnegative, hmagnitude, hvalue, Nat.cast_mul]
    by_cases hn : n < 0
    · rw [decide_eq_true hn, if_pos rfl, ← neg_mul, Int.ofNat_natAbs_of_nonpos hn.le, neg_neg]
    · rw [decide_eq_false hn, if_neg (by decide), Int.natAbs_of_nonneg (not_lt.1 hn)]

theorem scaled_ofInt {n : ℤ} (h : n.natAbs ≤ 2 ^ 53) : (ofInt n).scaled = n * unit := by
  obtain ⟨y, hfinite, hy⟩ := exists_scaled_eq h
  rw [ofInt_eq_ofScaled, ← hy, scaled_ofScaled hfinite]

/-! ## Whole numbers beside values -/

theorem two_pow_mul_one_shiftLeft_lt {k s : ℕ} (h : k + 972 ≤ s) :
    2 ^ 53 * 1 <<< k < fractionCount <<< s := by
  calc
    2 ^ 53 * 1 <<< k = 2 ^ (53 + k) := by rw [Nat.one_shiftLeft, Nat.pow_add]
    _ < 2 ^ (52 + s) := Nat.pow_lt_pow_right (by decide) (by omega)
    _ = 2 ^ 52 * 2 ^ s := Nat.pow_add 2 52 s
    _ = fractionCount <<< s := (Nat.shiftLeft_eq fractionCount s).symm

/-- The infinities are beyond the whole numbers that are not changed. -/
theorem lt_magnitude_of_not_isFinite (h : x.isFinite = false) : 2 ^ 53 * unit < x.magnitude := by
  have hpattern := of_decide_eq_false h
  have hexponent : 2047 ≤ x.exponent :=
    (Nat.le_div_iff_mul_le (by decide)).2 (Nat.le_trans (by decide) (Nat.not_lt.1 hpattern))
  calc
    2 ^ 53 * unit < fractionCount <<< (x.exponent - 1) := two_pow_mul_one_shiftLeft_lt (by omega)
    _ ≤ x.magnitude := le_magnitude (by omega)

theorem natAbs_mul_unit_le {n : ℤ} (h : n.natAbs ≤ 2 ^ 53) :
    (n * unit).natAbs ≤ 2 ^ 53 * unit := by
  rw [Int.natAbs_mul, Int.natAbs_natCast]
  exact Nat.mul_le_mul_right _ h

theorem intCast_lt_value_iff {n : ℤ} (h : n.natAbs ≤ 2 ^ 53) :
    ((n : ℝ) : EReal) < x.value ↔ n * unit < x.scaled := by
  cases hfinite : x.isFinite with
  | true => rw [← not_le, ← not_le, value_le_intCast_iff hfinite]
  | false =>
    have hbeyond := lt_magnitude_of_not_isFinite hfinite
    have hsmall := natAbs_mul_unit_le h
    rw [value_of_not_isFinite hfinite, scaled]
    cases x.negative with
    | true =>
      refine iff_of_false not_lt_bot ?_
      rw [if_pos rfl]
      omega
    | false =>
      refine iff_of_true (EReal.coe_lt_top _) ?_
      rw [if_neg (by decide)]
      omega

theorem value_lt_intCast_iff {n : ℤ} (h : n.natAbs ≤ 2 ^ 53) :
    x.value < ((n : ℝ) : EReal) ↔ x.scaled < n * unit := by
  cases hfinite : x.isFinite with
  | true => rw [← not_le, ← not_le, intCast_le_value_iff hfinite]
  | false =>
    have hbeyond := lt_magnitude_of_not_isFinite hfinite
    have hsmall := natAbs_mul_unit_le h
    rw [value_of_not_isFinite hfinite, scaled]
    cases x.negative with
    | true =>
      refine iff_of_true (EReal.bot_lt_coe _) ?_
      rw [if_pos rfl]
      omega
    | false =>
      refine iff_of_false not_top_lt ?_
      rw [if_neg (by decide)]
      omega

/-- Whole numbers that are not changed by rounding are compared exactly. -/
theorem compare_scaled_ofInt {n : ℤ} (h : n.natAbs ≤ 2 ^ 53) :
    compare (ofInt n).scaled x.scaled = compare ((n : ℝ) : EReal) x.value := by
  rw [scaled_ofInt h]
  rcases lt_trichotomy ((n : ℝ) : EReal) x.value with hlt | heq | hgt
  · rw [compare_lt_iff_lt.2 hlt, Std.compare_eq_lt.2 ((intCast_lt_value_iff h).1 hlt)]
  · have hnot_lt := mt (intCast_lt_value_iff h).2 heq.not_lt
    have hnot_gt := mt (value_lt_intCast_iff h).2 heq.not_gt
    rw [compare_eq_iff_eq.2 heq, show n * unit = x.scaled by omega]
    exact Std.ReflOrd.compare_self
  · rw [compare_gt_iff_gt.2 hgt, Std.compare_eq_gt.2 ((value_lt_intCast_iff h).1 hgt)]

end GameShelf.Binary64
