/-!
# Whole numbers written in decimal digits

A whole number is written as an optional sign, `+` or `-`, and one or more of the digits `0` to `9`.
Leading zeros are allowed, and nothing else is: no blank, no separator, no digit of another script.
-/

namespace GameShelf.Numeral

/-- The number that a row of decimal digits denotes, the most significant digit first. -/
def digitsValue (cs : List Char) : Nat :=
  cs.foldl (fun n c ↦ 10 * n + (c.toNat - '0'.toNat)) 0

/-- The number written by one or more digits without a sign. -/
def natural? (cs : List Char) : Option Nat :=
  if cs ≠ [] ∧ cs.all Char.isDigit then some (digitsValue cs) else none

/-- Whether a text begins with a minus sign, and the text after its sign, if it has one. -/
def takeSign : List Char → Bool × List Char
  | '-' :: cs => (true, cs)
  | '+' :: cs => (false, cs)
  | cs => (false, cs)

def applySign (negative : Bool) (n : Nat) : Int :=
  if negative then -n else n

/-- The number written by an optional sign and one or more digits. -/
def integer? (cs : List Char) : Option Int :=
  let (negative, digits) := takeSign cs
  (natural? digits).map (applySign negative)

theorem natural?_eq_some_iff {cs : List Char} {n : Nat} :
    natural? cs = some n ↔ (cs ≠ [] ∧ ∀ c ∈ cs, c.isDigit) ∧ digitsValue cs = n := by
  simp [natural?]

/-- Another digit at the end multiplies the value by ten. -/
theorem digitsValue_concat (cs : List Char) (c : Char) :
    digitsValue (cs ++ [c]) = 10 * digitsValue cs + (c.toNat - '0'.toNat) := by
  simp [digitsValue]

end GameShelf.Numeral
