import GameShelf.Binary64.Rounding
import GameShelf.Proofs.Binary64.Order

/-!
# What is rounded to a pattern

Rounding looks at a ratio only, so a common factor of both numbers makes no difference. Ratios that
are far out of range are rounded to zero or to infinity, and the value of a finite number is rounded
to the number itself.
-/

namespace GameShelf

theorem divNearest_mul_mul {c : Nat} (hc : 0 < c) (n d : Nat) :
    divNearest (c * n) (c * d) = divNearest n d := by
  have hlt : 2 * (c * (n % d)) < c * d ↔ 2 * (n % d) < d := by
    rw [Nat.mul_left_comm]
    exact Nat.mul_lt_mul_left hc
  have heq : 2 * (c * (n % d)) = c * d ↔ 2 * (n % d) = d := by
    rw [Nat.mul_left_comm]
    exact Nat.mul_right_inj (Nat.ne_of_gt hc)
  unfold divNearest
  rw [Nat.mul_div_mul_left _ _ hc, Nat.mul_mod_mul_left]
  simp only [hlt, heq]

theorem divNearest_mul_self (n : Nat) {d : Nat} (hd : 0 < d) : divNearest (n * d) d = n := by
  unfold divNearest
  rw [Nat.mul_div_cancel _ hd, Nat.mul_mod_left]
  simp [hd]

namespace Binary64

/-- Rounding looks at the ratio only. -/
theorem nearestPattern_mul_mul {c : Nat} (hc : 0 < c) (n d : Nat) :
    nearestPattern (c * n) (c * d) = nearestPattern n d := by
  have hn : (c * n) <<< 1074 = c * n <<< 1074 := by
    rw [Nat.shiftLeft_eq, Nat.shiftLeft_eq, Nat.mul_assoc]
  have hd (s : Nat) : (c * d) <<< s = c * d <<< s := by
    rw [Nat.shiftLeft_eq, Nat.shiftLeft_eq, Nat.mul_assoc]
  unfold nearestPattern
  dsimp only
  rw [hn, hd, Nat.mul_div_mul_left _ _ hc, divNearest_mul_mul hc]

/-- Less than half of the least positive number is rounded to zero. -/
theorem nearestPattern_eq_zero {n d : Nat} (h : 2 * n <<< 1074 < d) : nearestPattern n d = 0 := by
  have hlt : n <<< 1074 < d := by omega
  have hlog : Nat.log2 0 - 52 = 0 := rfl
  unfold nearestPattern divNearest
  simp only [Nat.div_eq_of_lt hlt, hlog, Nat.shiftLeft_zero, Nat.mod_eq_of_lt hlt, h, true_or,
    if_true]
  rfl

theorem nearestPattern_zero {d : Nat} (hd : 0 < d) : nearestPattern 0 d = 0 := by
  apply nearestPattern_eq_zero
  rwa [Nat.zero_shiftLeft]

/-- A whole number from `2 ^ 1025` on is rounded to infinity. -/
theorem nearestPattern_eq_infinity {n : Nat} (h : 1 <<< 1025 ≤ n) :
    nearestPattern n 1 = infinityPattern := by
  have hscaled : 1 <<< 2099 ≤ n <<< 1074 := by
    rw [show (2099 : Nat) = 1025 + 1074 from rfl, Nat.shiftLeft_add, Nat.shiftLeft_eq,
      Nat.shiftLeft_eq n]
    exact Nat.mul_le_mul_right _ h
  have hlog : 2099 ≤ (n <<< 1074).log2 := by
    apply (Nat.le_log2 (Nat.ne_of_gt (Nat.lt_of_lt_of_le (by decide) hscaled))).2
    rwa [Nat.one_shiftLeft] at hscaled
  unfold nearestPattern
  dsimp only
  rw [Nat.div_one]
  apply Nat.min_eq_right
  calc
    infinityPattern = 2047 * fractionCount := rfl
    _ ≤ ((n <<< 1074).log2 - 52) * fractionCount := Nat.mul_le_mul_right _ (by omega)
    _ = ((n <<< 1074).log2 - 52) <<< 52 := (Nat.shiftLeft_eq _ 52).symm
    _ ≤ _ := Nat.le_add_left _ _

theorem log2_shiftLeft_sub {k s : Nat} (hk : k < 2 * fractionCount)
    (hnormal : s ≠ 0 → fractionCount ≤ k) : (k <<< s).log2 - 52 = s := by
  have hle : (k <<< s).log2 ≤ 52 + s := by
    by_cases hzero : k <<< s = 0
    · rw [hzero]
      exact Nat.zero_le _
    · apply Nat.le_of_lt_succ
      apply (Nat.log2_lt hzero).2
      calc
        k <<< s = k * 2 ^ s := Nat.shiftLeft_eq k s
        _ < 2 ^ 53 * 2 ^ s := Nat.mul_lt_mul_of_pos_right hk (Nat.two_pow_pos s)
        _ = 2 ^ (53 + s) := (Nat.pow_add 2 53 s).symm
        _ = 2 ^ (52 + s).succ := by rw [Nat.add_comm, Nat.add_comm 52]
  by_cases hs : s = 0
  · omega
  · have hbelow : 2 ^ (52 + s) ≤ k <<< s := by
      calc
        2 ^ (52 + s) = 2 ^ 52 * 2 ^ s := Nat.pow_add 2 52 s
        _ ≤ k * 2 ^ s := Nat.mul_le_mul_right _ (hnormal hs)
        _ = k <<< s := (Nat.shiftLeft_eq k s).symm
    have hne : k <<< s ≠ 0 := Nat.ne_of_gt (Nat.lt_of_lt_of_le (Nat.two_pow_pos _) hbelow)
    have hge : 52 + s ≤ (k <<< s).log2 := (Nat.le_log2 hne).2 hbelow
    omega

theorem shiftLeft_div_one_shiftLeft (n k : Nat) : n <<< k / 1 <<< k = n := by
  rw [Nat.shiftLeft_eq, Nat.one_shiftLeft]
  exact Nat.mul_div_cancel n (Nat.two_pow_pos k)

theorem divNearest_shiftLeft (n s k : Nat) :
    divNearest ((n <<< s) <<< k) ((1 <<< k) <<< s) = n := by
  rw [← Nat.shiftLeft_add, ← Nat.shiftLeft_add, Nat.add_comm k, Nat.shiftLeft_eq,
    Nat.one_shiftLeft]
  exact divNearest_mul_self n (Nat.two_pow_pos _)

/-- A significand of at most 53 bits, its leading bit among them unless it is not shifted, is
rounded to a pattern without a loss. -/
theorem nearestPattern_shiftLeft {k s : Nat} (hk : k < 2 * fractionCount)
    (hnormal : s ≠ 0 → fractionCount ≤ k) :
    nearestPattern (k <<< s) (1 <<< 1074) = min (k + s * fractionCount) infinityPattern := by
  unfold nearestPattern
  dsimp only
  rw [shiftLeft_div_one_shiftLeft, log2_shiftLeft_sub hk hnormal, divNearest_shiftLeft,
    Nat.shiftLeft_eq s 52]
  rfl

theorem nearestPattern_magnitude {x : Binary64} (h : x.isFinite = true) :
    nearestPattern x.magnitude (1 <<< 1074) = x.pattern := by
  have hpattern := exponent_mul_add_fraction x
  have hfraction := x.fraction_lt
  have hfinite : x.pattern ≤ infinityPattern := Nat.le_of_lt (of_decide_eq_true h)
  unfold magnitude
  split
  · next hzero =>
    rw [hzero, Nat.zero_mul, Nat.zero_add] at hpattern
    have hround := nearestPattern_shiftLeft (k := x.fraction) (s := 0) (by omega) (by simp)
    rw [Nat.shiftLeft_zero] at hround
    rw [hround, Nat.zero_mul, Nat.add_zero, hpattern]
    exact Nat.min_eq_left hfinite
  · next hne =>
    obtain ⟨e, he⟩ := Nat.exists_eq_succ_of_ne_zero hne
    rw [he, Nat.succ_mul] at hpattern
    rw [he, Nat.succ_sub_one, nearestPattern_shiftLeft (by omega) (by omega)]
    rw [show fractionCount + x.fraction + e * fractionCount = x.pattern by omega]
    exact Nat.min_eq_left hfinite

/-- Only the two zeros have the value zero. -/
theorem magnitude_eq_zero_iff {x : Binary64} : x.magnitude = 0 ↔ x.pattern = 0 := by
  have hpattern := exponent_mul_add_fraction x
  have hcount : 0 < fractionCount := by decide
  unfold magnitude
  split
  · next hzero =>
    rw [hzero] at hpattern
    omega
  · next hne =>
    have hpos : 0 < (fractionCount + x.fraction) <<< (x.exponent - 1) := by
      rw [Nat.shiftLeft_eq]
      exact Nat.mul_pos (by omega) (Nat.two_pow_pos _)
    have hexponent : 0 < x.exponent * fractionCount := Nat.mul_pos (by omega) hcount
    omega

end Binary64

end GameShelf
