import GameShelf.Json.Found
import GameShelf.Proofs.Numeral.Shortest

/-!
# What a number is found as

A whole number that is found as an integer is rounded, where a number of double precision is
expected, to what its decimal is rounded to. So it makes no difference there how a number is found.
-/

namespace GameShelf.Json

/-- Whether a number is written as a given integer, without a fraction and an exponent. Negative
zero is no integer. -/
structure NumberText.IsInteger (n : NumberText) (k : Int) : Prop where
  isWhole : n.isWhole = true
  value : Numeral.applySign n.negative (Numeral.digitsValue n.whole) = k
  ne_zero : n.negative = true → k ≠ 0

/-- What a number is found as where double precision is expected. -/
def NumberText.IsFloat (n : NumberText) (x : Binary64) : Prop :=
  n.toDecimal.toBinary64 = x ∧ x.isFinite = true

/-- An integer of at most 64 bits is found as such. -/
theorem found?_of_isInteger {n : NumberText} {k : Int} (h : n.IsInteger k)
    (hfits : fitsInteger k = true) : n.found? = some (.integer k) := by
  obtain ⟨hwhole, rfl, hzero⟩ := h
  have hnegative : (!(n.negative && Numeral.digitsValue n.whole == 0)) = true := by
    cases hsign : n.negative with
    | false => rfl
    | true =>
      rw [hsign] at hzero
      simpa [Numeral.applySign] using hzero rfl
  simp [NumberText.found?, hwhole, hfits, hnegative]

theorem natAbs_applySign (negative : Bool) (n : Nat) :
    (Numeral.applySign negative n).natAbs = n := by
  cases negative <;> simp [Numeral.applySign]

theorem applySign_neg {negative : Bool} {n : Nat}
    (h : negative = true → Numeral.applySign negative n ≠ 0) :
    decide (Numeral.applySign negative n < 0) = negative := by
  cases negative with
  | false => exact decide_eq_false (Int.not_lt.2 (Int.natCast_nonneg n))
  | true =>
    have hne : (-n : Int) ≠ 0 := h rfl
    exact decide_eq_true (show (-n : Int) < 0 by omega)

/-- Rounding an integer is rounding the decimal that it is written as. -/
theorem ofInt_eq_toBinary64 {n : NumberText} {k : Int} (h : n.IsInteger k) :
    Binary64.ofInt k = n.toDecimal.toBinary64 := by
  obtain ⟨hwhole, rfl, hzero⟩ := h
  have hparts : n.fraction = none ∧ n.exponent = none := by
    simpa [NumberText.isWhole] using hwhole
  have hdecimal : n.toDecimal = ⟨n.negative, Numeral.digitsValue n.whole, 0⟩ := by
    simp [NumberText.toDecimal, hparts]
  have hratio : Decimal.nearestPattern (Numeral.digitsValue n.whole) 0 =
      Binary64.nearestPattern (Numeral.digitsValue n.whole) 1 := by
    rw [Decimal.nearestPattern_eq, if_pos (Int.le_refl 0)]
    exact congrArg (Binary64.nearestPattern · 1) (Nat.mul_one _)
  rw [hdecimal, Decimal.toBinary64, hratio, Binary64.ofInt, Binary64.ofRatio, natAbs_applySign,
    applySign_neg hzero]

/-- It makes no difference to its value how a number is found. -/
theorem found?_of_isFloat {n : NumberText} {x : Binary64} (h : n.IsFloat x) :
    (∃ k, n.found? = some (.integer k) ∧ Binary64.ofInt k = x) ∨ n.found? = some (.float x) := by
  obtain ⟨rfl, hfinite⟩ := h
  unfold NumberText.found?
  dsimp only
  split
  · next hinteger =>
    simp only [Bool.and_eq_true, Bool.not_eq_true', Bool.and_eq_false_imp] at hinteger
    obtain ⟨⟨hwhole, -⟩, hzero⟩ := hinteger
    refine .inl ⟨_, rfl, ofInt_eq_toBinary64 ⟨hwhole, rfl, fun hnegative ↦ ?_⟩⟩
    simpa [Numeral.applySign, hnegative] using hzero hnegative
  · right
    rw [Option.filter_some, if_pos hfinite, Option.map_some]

end GameShelf.Json
