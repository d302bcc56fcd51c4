import GameShelf.Binary64.Rounding
import GameShelf.Numeral.Signed

/-!
# Decimal numbers

A decimal number is a sign, a whole number of digits and a power of ten. `ofLiteral?` reads the
literal form: an optional sign, digits with at most one point among or beside them, and an optional
exponent after `e` or `E`. `toBinary64` is the double-precision number nearest to a decimal; two
comparisons of exponents answer for the numbers that are far out of range, so that no power of ten
much longer than the digits themselves is ever computed.
-/

namespace GameShelf

/-- The number `± digits · 10 ^ exponent`. -/
structure Decimal where
  negative : Bool
  digits : Nat
  exponent : Int
deriving DecidableEq, Repr

namespace Decimal

/-- The power of ten written after the digits of a literal; without one it is zero. -/
def exponentPart? : List Char → Option Int
  | [] => some 0
  | c :: cs => if c = 'e' ∨ c = 'E' then Numeral.integer? cs else none

/-- The digits after a point at the front, and what follows them. -/
def fractionPart : List Char → List Char × List Char
  | '.' :: cs => (cs.takeWhile Char.isDigit, cs.dropWhile Char.isDigit)
  | cs => ([], cs)

def ofLiteral? (cs : List Char) : Option Decimal :=
  let (negative, body) := Numeral.takeSign cs
  let whole := body.takeWhile Char.isDigit
  let (fraction, rest) := fractionPart (body.dropWhile Char.isDigit)
  if whole.isEmpty && fraction.isEmpty then none
  else (exponentPart? rest).map fun e ↦
    { negative, digits := Numeral.digitsValue (whole ++ fraction), exponent := e - fraction.length }

/-- The pattern of the double-precision number nearest to `digits · 10 ^ exponent`. A whole number
of digits times `10 ^ 400` is beyond every finite number, and less than `10 ^ (-400)` rounds to
zero. -/
def nearestPattern (digits : Nat) (exponent : Int) : Nat :=
  if digits = 0 ∨ exponent < -(digits.log2 + 401) then 0
  else if 400 < exponent then Binary64.infinityPattern
  else if 0 ≤ exponent then Binary64.nearestPattern (digits * Nat.pow 10 exponent.toNat) 1
  else Binary64.nearestPattern digits (Nat.pow 10 (-exponent).toNat)

/-- The double-precision number nearest to a decimal, a tie going to the even fraction. -/
def toBinary64 (x : Decimal) : Binary64 :=
  Binary64.ofPattern x.negative (nearestPattern x.digits x.exponent)

/-- The finite double-precision number that a literal denotes. -/
def finite? (cs : List Char) : Option Binary64 :=
  ((ofLiteral? cs).map toBinary64).filter Binary64.isFinite

end Decimal

end GameShelf
