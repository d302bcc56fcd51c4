import GameShelf.Proofs.Binary64.Rounding

/-!
# Rounding keeps the order

A larger number is never rounded to a smaller pattern: a significand that grows past its 53 bits is
carried into the exponent. So whole numbers that are rounded to double precision never change
places, though two of them may become one.
-/

namespace GameShelf

theorem div_le_divNearest (n d : Nat) : n / d ≤ divNearest n d := by
  unfold divNearest
  dsimp only
  split <;> omega

theorem divNearest_le_div_add_one (n d : Nat) : divNearest n d ≤ n / d + 1 := by
  unfold divNearest
  dsimp only
  split <;> omega

theorem divNearest_mono {n n' : Nat} (h : n ≤ n') (d : Nat) :
    divNearest n d ≤ divNearest n' d := by
  have hdiv : n / d ≤ n' / d := Nat.div_le_div_right h
  rcases Nat.lt_or_eq_of_le hdiv with hlt | heq
  · calc
      divNearest n d ≤ n / d + 1 := divNearest_le_div_add_one n d
      _ ≤ n' / d := hlt
      _ ≤ divNearest n' d := div_le_divNearest n' d
  · have hn := Nat.div_add_mod n d
    have hn' := Nat.div_add_mod n' d
    rw [heq] at hn
    have hmod : n % d ≤ n' % d := by omega
    unfold divNearest
    dsimp only
    rw [heq]
    split <;> split <;> omega

namespace Binary64

/-! ## Significands -/

theorem div_shiftLeft (n d s : Nat) : n / d <<< s = (n / d) >>> s := by
  rw [Nat.shiftLeft_eq, Nat.shiftRight_eq_div_pow, Nat.div_div_eq_div_mul]

/-- With as many places dropped as do not fit, a significand has 53 bits at most. -/
theorem divNearest_le_of_log2 (n d : Nat) :
    divNearest n (d <<< ((n / d).log2 - 52)) ≤ 2 * fractionCount := by
  have hquotient : n / d <<< ((n / d).log2 - 52) < 2 * fractionCount := by
    rw [div_shiftLeft, Nat.shiftRight_eq_div_pow, Nat.div_lt_iff_lt_mul (Nat.two_pow_pos _)]
    calc
      n / d < 2 ^ ((n / d).log2 + 1) := Nat.lt_log2_self
      _ ≤ 2 ^ (53 + ((n / d).log2 - 52)) := Nat.pow_le_pow_right (by decide) (by omega)
      _ = 2 * fractionCount * 2 ^ ((n / d).log2 - 52) := Nat.pow_add 2 53 _
  exact Nat.le_trans (divNearest_le_div_add_one _ _) hquotient

/-- It has 53 bits if any places are dropped. -/
theorem le_divNearest_of_log2 {n d : Nat} (h : (n / d).log2 - 52 ≠ 0) :
    fractionCount ≤ divNearest n (d <<< ((n / d).log2 - 52)) := by
  have hne : n / d ≠ 0 := by
    intro hzero
    rw [hzero] at h
    exact h rfl
  have hquotient : fractionCount ≤ n / d <<< ((n / d).log2 - 52) := by
    rw [div_shiftLeft, Nat.shiftRight_eq_div_pow, Nat.le_div_iff_mul_le (Nat.two_pow_pos _)]
    calc
      fractionCount * 2 ^ ((n / d).log2 - 52) = 2 ^ (52 + ((n / d).log2 - 52)) :=
        (Nat.pow_add 2 52 _).symm
      _ = 2 ^ (n / d).log2 := by rw [Nat.add_sub_cancel' (by omega)]
      _ ≤ n / d := Nat.log2_self_le hne
  exact Nat.le_trans hquotient (div_le_divNearest _ _)

theorem log2_le_log2 {m n : Nat} (h : m ≤ n) : m.log2 ≤ n.log2 := by
  by_cases hm : m = 0
  · rw [hm]
    exact Nat.zero_le _
  · have hn : n ≠ 0 := by omega
    exact (Nat.le_log2 hn).2 (Nat.le_trans (Nat.log2_self_le hm) h)

/-- A larger number is rounded to a larger pattern, or to the same one. -/
theorem nearestPattern_mono {n n' : Nat} (h : n ≤ n') (d : Nat) :
    nearestPattern n d ≤ nearestPattern n' d := by
  have hscaled : n <<< 1074 ≤ n' <<< 1074 := by
    rw [Nat.shiftLeft_eq, Nat.shiftLeft_eq]
    exact Nat.mul_le_mul_right _ h
  generalize hm : n <<< 1074 = m at hscaled
  generalize hm' : n' <<< 1074 = m' at hscaled
  have hlog : (m / d).log2 - 52 ≤ (m' / d).log2 - 52 :=
    Nat.sub_le_sub_right (log2_le_log2 (Nat.div_le_div_right hscaled)) 52
  have hpattern : divNearest m (d <<< ((m / d).log2 - 52)) + ((m / d).log2 - 52) <<< 52 ≤
      divNearest m' (d <<< ((m' / d).log2 - 52)) + ((m' / d).log2 - 52) <<< 52 := by
    rcases Nat.lt_or_eq_of_le hlog with hlt | heq
    · -- The larger number has a larger exponent, and the leading bit of its significand makes up
      -- for all that the significand of the smaller one can add.
      have hupper := divNearest_le_of_log2 m d
      have hlower : fractionCount ≤ divNearest m' (d <<< ((m' / d).log2 - 52)) :=
        le_divNearest_of_log2 (by omega)
      have hcount : fractionCount = 2 ^ 52 := rfl
      rw [Nat.shiftLeft_eq _ 52, Nat.shiftLeft_eq _ 52]
      omega
    · rw [heq]
      exact Nat.add_le_add_right (divNearest_mono hscaled _) _
  unfold nearestPattern
  dsimp only
  rw [hm, hm']
  omega

/-! ## Whole numbers -/

theorem rank_ofPattern {negative : Bool} {p : Nat} (h : p < signBit) :
    (ofPattern negative p).rank = if negative then -(p : Int) - 1 else p := by
  rw [rank, negative_ofPattern h, pattern_ofPattern h]

theorem rank_injective {x y : Binary64} (h : x.rank = y.rank) : x = y := by
  rw [← x.ofPattern_pattern, ← y.ofPattern_pattern]
  unfold rank at h
  cases hx : x.negative <;> cases hy : y.negative <;> rw [hx, hy] at h <;>
    simp only [Bool.false_eq_true, if_false, if_true] at h
  · rw [Int.ofNat.inj h]
  · omega
  · omega
  · rw [show x.pattern = y.pattern by omega]

/-- Ratios with one denominator never change places when they are rounded. -/
theorem rank_ofRatio_mono {m n : Int} (h : m ≤ n) (d : Nat) :
    (ofRatio (m < 0) m.natAbs d).rank ≤ (ofRatio (n < 0) n.natAbs d).rank := by
  unfold ofRatio
  rw [rank_ofPattern (nearestPattern_lt _ _), rank_ofPattern (nearestPattern_lt _ _)]
  by_cases hm : m < 0
  · by_cases hn : n < 0
    · have hpattern := nearestPattern_mono (show n.natAbs ≤ m.natAbs by omega) d
      simp only [hm, hn, decide_true, if_true]
      omega
    · simp only [hm, hn, decide_true, decide_false, if_true, Bool.false_eq_true, if_false]
      omega
  · have hn : ¬ n < 0 := by omega
    have hpattern := nearestPattern_mono (show m.natAbs ≤ n.natAbs by omega) d
    simp only [hm, hn, decide_false, Bool.false_eq_true, if_false]
    omega

/-- Whole numbers never change places when they are rounded. -/
theorem rank_ofInt_mono {m n : Int} (h : m ≤ n) : (ofInt m).rank ≤ (ofInt n).rank :=
  rank_ofRatio_mono h 1

end Binary64

end GameShelf
