import GameShelf.Numeral.Decimal

/-!
# The shortest decimal that reads back

Among the decimals that are read as a given finite double-precision number, `Decimal.shortest` finds
one with the fewest digits, and of those the nearest to the number, a tie going to the even last
digit. For each number of digits only the two neighbours of the number on the grid of that many
digits come into question: when any point of the grid is read as the number, so is one of them.
-/

namespace GameShelf.Decimal

/-- The number of decimal digits of a whole number. -/
def width (n : Nat) : Nat :=
  (Nat.toDigits 10 n).length

/-- The power of ten of the leading digit of `m · 2⁻¹⁰⁷⁴`. The least such number has its leading
digit at `10 ^ (-324)`, so `10 ^ 400` scales each of them to a whole number. -/
def leadingExponent (m : Nat) : Int :=
  (width ((m * Nat.pow 10 400) >>> 1074) : Int) - 401

/-- The value `m · 2⁻¹⁰⁷⁴` as a ratio in units of `10 ^ e`. -/
def inUnits (m : Nat) (e : Int) : Nat × Nat :=
  (m * Nat.pow 10 (-e).toNat, Nat.pow 10 e.toNat <<< 1074)

/-- The neighbours of `n / d` among the whole numbers, the nearer first; of two equally near ones
the even one is first. -/
def neighbours (n d : Nat) : List Nat :=
  let q := n / d
  if divNearest n d = q then [q, q + 1] else [q + 1, q]

/-- The digits of the number nearest to `m · 2⁻¹⁰⁷⁴` on the grid of `10 ^ e` among those that are
read as the number of the given pattern. -/
def onGrid? (p m : Nat) (e : Int) : Option (Nat × Int) :=
  let (n, d) := inUnits m e
  ((neighbours n d).find? fun digits ↦ nearestPattern digits e = p).map fun digits ↦ (digits, e)

def dropZeros (digits : Nat) (e : Int) : Nat × Int :=
  if h : digits ≠ 0 ∧ digits % 10 = 0 then dropZeros (digits / 10) (e + 1) else (digits, e)
termination_by digits
decreasing_by omega

/-- The digits and the power of ten of the shortest decimal that is read as the number with pattern
`p` and value `m · 2⁻¹⁰⁷⁴`. No double-precision number needs more than seventeen digits; the exact
decimal stands behind the search. -/
def shortestDigits (p m : Nat) : Nat × Int :=
  let top := leadingExponent m
  let found := (List.range 17).findSome? fun (k : Nat) ↦ onGrid? p m (top - k)
  let decimal := found.getD (m * Nat.pow 5 1074, -1074)
  dropZeros decimal.1 decimal.2

/-- The shortest decimal that is read as a finite number. -/
def shortest (x : Binary64) : Decimal :=
  let decimal := if x.magnitude = 0 then (0, 0) else shortestDigits x.pattern x.magnitude
  { negative := x.negative, digits := decimal.1, exponent := decimal.2 }

end GameShelf.Decimal
