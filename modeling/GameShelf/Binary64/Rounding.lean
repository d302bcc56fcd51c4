import GameShelf.Binary64.Basic

/-!
# Rounding to double precision

The double-precision number nearest to a ratio of two whole numbers, a tie going to the even
fraction. Patterns of positive numbers grow with the value, and a fraction that rounds up to
`2⁵³` carries into the exponent, so one addition assembles the pattern.
-/

namespace GameShelf

/-- The whole number nearest to `n / d`, a tie going to the even one. -/
def divNearest (n d : Nat) : Nat :=
  let q := n / d
  let r := n % d
  if 2 * r < d ∨ (2 * r = d ∧ q % 2 = 0) then q else q + 1

namespace Binary64

/-- The pattern of the number nearest to `n / d`. With `s` places dropped, the significand in units
of `2 ^ (s - 1074)` has at most 53 bits. -/
def nearestPattern (n d : Nat) : Nat :=
  let scaled := n <<< 1074
  let s := (scaled / d).log2 - 52
  min (divNearest scaled (d <<< s) + s <<< 52) infinityPattern

/-- The number nearest to `± n / d`; beyond the greatest finite number it is infinite. -/
def ofRatio (negative : Bool) (n d : Nat) : Binary64 :=
  ofPattern negative (nearestPattern n d)

def ofInt (n : Int) : Binary64 :=
  ofRatio (n < 0) n.natAbs 1

theorem nearestPattern_le (n d : Nat) : nearestPattern n d ≤ infinityPattern :=
  Nat.min_le_right _ _

theorem nearestPattern_lt (n d : Nat) : nearestPattern n d < signBit :=
  Nat.lt_of_le_of_lt (nearestPattern_le n d) (by decide)

/-- Rounding never makes a NaN. -/
@[simp]
theorem isNaN_ofRatio (negative : Bool) (n d : Nat) : (ofRatio negative n d).isNaN = false := by
  simp [isNaN, ofRatio, pattern_ofPattern (nearestPattern_lt n d), nearestPattern_le]

end Binary64

end GameShelf
