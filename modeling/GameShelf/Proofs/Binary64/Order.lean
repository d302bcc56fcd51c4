import GameShelf.Binary64.Basic

/-!
# The two orders of double-precision numbers

The total order looks at patterns, and the order by value at what they denote. Absolute values grow
with the bits of exponent and fraction, and negative patterns are ordered from the largest to the
smallest, so a number that is not greater in the total order is not greater in value either. Only
the total order tells the two zeros apart.

The total order has a place for the NaNs too, at its two ends: the sign bit of a NaN decides whether
it stands below all numbers or above them.
-/

namespace GameShelf.Binary64

variable {x y : Binary64}

theorem isNaN_of_isFinite (h : x.isFinite = true) : x.isNaN = false :=
  decide_eq_false (Nat.not_lt_of_gt (of_decide_eq_true h))

theorem exponent_mul_add_fraction (x : Binary64) :
    x.exponent * fractionCount + x.fraction = x.pattern :=
  Nat.div_add_mod' x.pattern fractionCount

theorem magnitude_le (x : Binary64) : x.magnitude ≤ fractionCount <<< x.exponent := by
  have hfraction := x.fraction_lt
  unfold magnitude
  split
  · next hzero =>
    rw [hzero]
    exact Nat.le_of_lt hfraction
  · next hne =>
    obtain ⟨e, he⟩ := Nat.exists_eq_succ_of_ne_zero hne
    rw [he, Nat.shiftLeft_eq, Nat.shiftLeft_eq, Nat.succ_sub_one, Nat.pow_succ', ← Nat.mul_assoc]
    apply Nat.mul_le_mul_right
    omega

theorem le_magnitude (h : x.exponent ≠ 0) : fractionCount <<< (x.exponent - 1) ≤ x.magnitude := by
  rw [magnitude, if_neg h, Nat.shiftLeft_eq, Nat.shiftLeft_eq]
  apply Nat.mul_le_mul_right
  exact Nat.le_add_right _ _

/-- Absolute values grow with the bits of exponent and fraction. -/
theorem magnitude_le_of_pattern_le (h : x.pattern ≤ y.pattern) : x.magnitude ≤ y.magnitude := by
  have hexponent : x.exponent ≤ y.exponent := Nat.div_le_div_right h
  rcases Nat.lt_or_eq_of_le hexponent with hlt | heq
  · calc
      x.magnitude ≤ fractionCount <<< x.exponent := x.magnitude_le
      _ ≤ fractionCount <<< (y.exponent - 1) := by
        rw [Nat.shiftLeft_eq, Nat.shiftLeft_eq]
        apply Nat.mul_le_mul_left
        exact Nat.pow_le_pow_right (by decide) (by omega)
      _ ≤ y.magnitude := le_magnitude (by omega)
  · have hx := exponent_mul_add_fraction x
    have hy := exponent_mul_add_fraction y
    rw [heq] at hx
    have hfraction : x.fraction ≤ y.fraction := by omega
    rw [magnitude, magnitude, heq]
    split
    · exact hfraction
    · rw [Nat.shiftLeft_eq, Nat.shiftLeft_eq]
      apply Nat.mul_le_mul_right
      omega

/-- The order by value follows the total order. -/
theorem scaled_le_of_rank_le (h : x.rank ≤ y.rank) : x.scaled ≤ y.scaled := by
  unfold rank at h
  unfold scaled
  cases hx : x.negative <;> cases hy : y.negative <;> rw [hx, hy] at h <;>
    simp only [Bool.false_eq_true, if_false, if_true] at h ⊢
  · exact Int.ofNat_le.2 (magnitude_le_of_pattern_le (Int.ofNat_le.1 h))
  · omega
  · omega
  · have hmagnitude : y.magnitude ≤ x.magnitude := magnitude_le_of_pattern_le (by omega)
    omega

/-! ## NaNs -/

/-- The class of a pattern in the total order: NaNs with the sign bit, numbers, and NaNs without
it. -/
def nanClass (x : Binary64) : Int :=
  if x.isNaN then if x.negative then -1 else 1 else 0

/-- Each class has its own interval of ranks. -/
theorem nanClass_eq (x : Binary64) :
    x.nanClass =
      if x.rank < -infinityPattern - 1 then -1 else if infinityPattern < x.rank then 1 else 0 := by
  have hnan : x.isNaN = true ↔ (infinityPattern : Int) < x.pattern :=
    decide_eq_true_iff.trans Int.ofNat_lt.symm
  unfold nanClass rank
  simp only [hnan]
  cases x.negative <;> simp only [Bool.false_eq_true, if_false, if_true] <;> omega

theorem nanClass_le_of_rank_le (h : x.rank ≤ y.rank) : x.nanClass ≤ y.nanClass := by
  rw [nanClass_eq, nanClass_eq]
  omega

/-- Patterns of two classes are ordered as the classes are. -/
theorem totalCompare_of_nanClass_ne (h : x.nanClass ≠ y.nanClass) :
    x.totalCompare y = compare x.nanClass y.nanClass := by
  rcases Int.lt_or_gt_of_ne h with hlt | hgt
  · have hrank : x.rank < y.rank := by
      apply Int.lt_of_not_ge
      intro hle
      exact Int.not_lt.2 (nanClass_le_of_rank_le hle) hlt
    rw [totalCompare, Std.compare_eq_lt.2 hrank, Std.compare_eq_lt.2 hlt]
  · have hrank : y.rank < x.rank := by
      apply Int.lt_of_not_ge
      intro hle
      exact Int.not_lt.2 (nanClass_le_of_rank_le hle) hgt
    rw [totalCompare, Std.compare_eq_gt.2 hrank, Std.compare_eq_gt.2 hgt]

end GameShelf.Binary64
