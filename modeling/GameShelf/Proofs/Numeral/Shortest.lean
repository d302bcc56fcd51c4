import GameShelf.Numeral.Shortest
import GameShelf.Proofs.Binary64.Rounding

/-!
# The shortest decimal reads back

A decimal far out of range is answered for by its exponent alone, and the answer is what rounding
it would give. So zeros at the end of the digits can be dropped for a higher power of ten, and every
decimal that the search finds, or the exact one behind it, is read as the number it was found for.
-/

namespace GameShelf

namespace Decimal

/-! ## Powers of ten -/

theorem one_shiftLeft_le_pow {m k : Nat} (h : m ≤ 3 * k) : 1 <<< m ≤ Nat.pow 10 k := by
  calc
    1 <<< m = 2 ^ m := Nat.one_shiftLeft m
    _ ≤ 2 ^ (3 * k) := Nat.pow_le_pow_right (by decide) h
    _ = 8 ^ k := Nat.pow_mul 2 3 k
    _ ≤ 10 ^ k := Nat.pow_le_pow_left (by decide) k

theorem pow_ten_eq (k : Nat) : Nat.pow 10 k = Nat.pow 5 k * 1 <<< k := by
  rw [Nat.one_shiftLeft]
  exact Nat.mul_pow 5 2 k

theorem two_mul_shiftLeft_lt (n k : Nat) : 2 * n <<< k < 1 <<< (n.log2 + k + 2) := by
  calc
    2 * n <<< k = n * 2 ^ (k + 1) := by
      rw [← Nat.shiftLeft_succ, Nat.shiftLeft_eq]
    _ < 2 ^ (n.log2 + 1) * 2 ^ (k + 1) :=
      Nat.mul_lt_mul_of_pos_right Nat.lt_log2_self (Nat.two_pow_pos _)
    _ = 2 ^ (n.log2 + k + 2) := by
      rw [← Nat.pow_add]
      congr 1
      omega
    _ = 1 <<< (n.log2 + k + 2) := (Nat.one_shiftLeft _).symm

/-! ## Rounding without regard to the range -/

/-- The exponent alone answers as rounding would. -/
theorem nearestPattern_eq (digits : Nat) (exponent : Int) :
    nearestPattern digits exponent =
      if 0 ≤ exponent then Binary64.nearestPattern (digits * Nat.pow 10 exponent.toNat) 1
      else Binary64.nearestPattern digits (Nat.pow 10 (-exponent).toNat) := by
  have hpow (k : Nat) : 0 < Nat.pow 10 k := Nat.pow_pos (by decide)
  unfold nearestPattern
  by_cases hzero : digits = 0
  · rw [if_pos (.inl hzero), hzero]
    split
    · rw [Nat.zero_mul, Binary64.nearestPattern_zero Nat.one_pos]
    · rw [Binary64.nearestPattern_zero (hpow _)]
  · by_cases hsmall : exponent < -(digits.log2 + 401)
    · rw [if_pos (.inr hsmall), if_neg (by omega)]
      apply (Binary64.nearestPattern_eq_zero _).symm
      calc
        2 * digits <<< 1074 < 1 <<< (digits.log2 + 1074 + 2) := two_mul_shiftLeft_lt digits 1074
        _ ≤ Nat.pow 10 (-exponent).toNat := one_shiftLeft_le_pow (by omega)
    · rw [if_neg (not_or_intro hzero hsmall)]
      split
      · next hlarge =>
        rw [if_pos (by omega)]
        apply (Binary64.nearestPattern_eq_infinity _).symm
        calc
          1 <<< 1025 ≤ Nat.pow 10 exponent.toNat := one_shiftLeft_le_pow (by omega)
          _ ≤ digits * Nat.pow 10 exponent.toNat := Nat.le_mul_of_pos_left _ (by omega)
      · rfl

@[simp]
theorem nearestPattern_zero (exponent : Int) : nearestPattern 0 exponent = 0 :=
  if_pos (.inl rfl)

/-- A factor of ten of the digits can be moved to the exponent. -/
theorem nearestPattern_ten_mul (digits : Nat) (exponent : Int) :
    nearestPattern (10 * digits) exponent = nearestPattern digits (exponent + 1) := by
  have hpow (k : Nat) : Nat.pow 10 (k + 1) = 10 * Nat.pow 10 k := Nat.pow_succ'
  rw [nearestPattern_eq, nearestPattern_eq]
  rcases Int.lt_trichotomy exponent (-1) with hlt | heq | hgt
  · have hstep : (-exponent).toNat = (-(exponent + 1)).toNat + 1 := by omega
    rw [if_neg (by omega), if_neg (by omega), hstep, hpow,
      Binary64.nearestPattern_mul_mul (by decide)]
  · rw [heq, if_neg (by decide), if_pos (by decide)]
    exact (Binary64.nearestPattern_mul_mul (by decide) digits 1).trans
      (congrArg (Binary64.nearestPattern · 1) (Nat.mul_one digits).symm)
  · have hstep : (exponent + 1).toNat = exponent.toNat + 1 := by omega
    rw [if_pos (by omega), if_pos (by omega), hstep, hpow, Nat.mul_left_comm, Nat.mul_assoc]

/-- A number of halves of a power is a number of fifths of the same power of ten. -/
theorem nearestPattern_mul_pow_five (m : Nat) {k : Nat} (hk : 0 < k) {e : Int} (he : -e = k) :
    nearestPattern (m * Nat.pow 5 k) e = Binary64.nearestPattern m (1 <<< k) := by
  have hexponent : (-e).toNat = k := by omega
  have hpos : 0 < Nat.pow 5 k := Nat.pow_pos (by decide)
  rw [nearestPattern_eq, if_neg (by omega), hexponent, pow_ten_eq, Nat.mul_comm m,
    Binary64.nearestPattern_mul_mul hpos]

/-! ## The search -/

theorem nearestPattern_dropZeros (digits : Nat) (e : Int) :
    nearestPattern (dropZeros digits e).1 (dropZeros digits e).2 = nearestPattern digits e := by
  fun_induction dropZeros digits e with
  | case1 digits e h ih =>
    rw [ih, ← nearestPattern_ten_mul, Nat.mul_div_cancel' (Nat.dvd_of_mod_eq_zero h.2)]
  | case2 => rfl

theorem nearestPattern_of_onGrid? {p m digits : Nat} {e e' : Int}
    (h : onGrid? p m e = some (digits, e')) : nearestPattern digits e' = p := by
  unfold onGrid? at h
  obtain ⟨found, hfound, heq⟩ := Option.map_eq_some_iff.1 h
  obtain ⟨rfl, rfl⟩ := Prod.mk.inj heq
  have hread := List.find?_some hfound
  exact of_decide_eq_true hread

theorem nearestPattern_exact {x : Binary64} (h : x.isFinite = true) :
    nearestPattern (x.magnitude * Nat.pow 5 1074) (-1074) = x.pattern := by
  -- The power is too large to be evaluated, so its exponent gets a name.
  generalize hk : (1074 : Nat) = k
  rw [nearestPattern_mul_pow_five x.magnitude (by omega) (by omega), ← hk,
    Binary64.nearestPattern_magnitude h]

/-- The digits are those of a decimal on some grid that is read as the number, or those of the exact
decimal, without the zeros at their end. -/
theorem exists_shortestDigits (p m : Nat) :
    ∃ r : Nat × Int, ((∃ e, onGrid? p m e = some r) ∨ r = (m * Nat.pow 5 1074, -1074)) ∧
      shortestDigits p m = dropZeros r.1 r.2 := by
  unfold shortestDigits
  dsimp only
  cases hfound : (List.range 17).findSome? fun (k : Nat) ↦
      onGrid? p m (leadingExponent m - k) with
  | some r =>
    obtain ⟨k, -, hk⟩ := List.exists_of_findSome?_eq_some hfound
    refine ⟨r, .inl ⟨_, hk⟩, ?_⟩
    rw [Option.getD_some]
  | none =>
    refine ⟨_, .inr rfl, ?_⟩
    rw [Option.getD_none]

theorem nearestPattern_shortestDigits {x : Binary64} (h : x.isFinite = true) :
    nearestPattern (shortestDigits x.pattern x.magnitude).1
      (shortestDigits x.pattern x.magnitude).2 = x.pattern := by
  obtain ⟨r, hr, heq⟩ := exists_shortestDigits x.pattern x.magnitude
  rw [heq, nearestPattern_dropZeros]
  rcases hr with ⟨e, hgrid⟩ | rfl
  · exact nearestPattern_of_onGrid? hgrid
  · exact nearestPattern_exact h

/-! ## The shortest decimal -/

theorem shortest_of_magnitude_eq_zero {x : Binary64} (h : x.magnitude = 0) :
    shortest x = ⟨x.negative, 0, 0⟩ := by
  rw [shortest, if_pos h]

theorem shortest_of_magnitude_ne_zero {x : Binary64} (h : x.magnitude ≠ 0) :
    shortest x = ⟨x.negative, (shortestDigits x.pattern x.magnitude).1,
      (shortestDigits x.pattern x.magnitude).2⟩ := by
  rw [shortest, if_neg h]

/-- The shortest decimal has the sign of the number and is read as its pattern. Only zero is written
without a digit other than zero. -/
theorem exists_shortest {x : Binary64} (h : x.isFinite = true) :
    ∃ digits exponent, shortest x = ⟨x.negative, digits, exponent⟩ ∧
      nearestPattern digits exponent = x.pattern ∧ (digits = 0 → exponent = 0) := by
  by_cases hzero : x.magnitude = 0
  · refine ⟨0, 0, shortest_of_magnitude_eq_zero hzero, ?_, fun _ ↦ rfl⟩
    rw [nearestPattern_zero, Binary64.magnitude_eq_zero_iff.1 hzero]
  · have hread := nearestPattern_shortestDigits h
    refine ⟨_, _, shortest_of_magnitude_ne_zero hzero, hread, fun hdigits ↦ ?_⟩
    rw [hdigits, nearestPattern_zero] at hread
    exact absurd (Binary64.magnitude_eq_zero_iff.2 hread.symm) hzero

/-- The shortest decimal is read as the number. -/
theorem toBinary64_shortest {x : Binary64} (h : x.isFinite = true) :
    (shortest x).toBinary64 = x := by
  obtain ⟨digits, exponent, hshortest, hread, -⟩ := exists_shortest h
  rw [hshortest, toBinary64, hread]
  exact x.ofPattern_pattern

end Decimal

end GameShelf
