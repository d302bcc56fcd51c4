import GameShelf.Numeral.Shortest

/-!
# Numbers in JSON text

A whole number is written in decimal digits. A number of double precision is written with the fewest
digits that are read as the same number: with a point among them while the power of ten of the
leading digit is small, and with an exponent otherwise. A number that is not finite has no JSON text,
and `null` stands in its place.
-/

namespace GameShelf.Json

def integerText (n : Int) : List Char :=
  if n < 0 then '-' :: Nat.toDigits 10 n.natAbs else Nat.toDigits 10 n.natAbs

/-- The least and the greatest power of ten of a leading digit for which a number is written without
an exponent. -/
def positionalRange : Int × Int := (-5, 15)

/-- The digits of a number with a point before the digits of negative powers of ten; a zero stands
on a side of the point that would have no digit. -/
def positional (digits : List Char) (exponent : Int) : List Char :=
  let places := (-exponent).toNat
  if 0 ≤ exponent then digits ++ List.replicate exponent.toNat '0' ++ ['.', '0']
  else if places < digits.length then
    digits.take (digits.length - places) ++ '.' :: digits.drop (digits.length - places)
  else ['0', '.'] ++ List.replicate (places - digits.length) '0' ++ digits

/-- The digits of a number with a point behind the first of them, if there are more, and the power
of ten of the first. -/
def scientific (digits : List Char) (leading : Int) : List Char :=
  let point := match digits with
    | first :: second :: rest => first :: '.' :: second :: rest
    | _ => digits
  let sign := if leading < 0 then '-' else '+'
  point ++ 'e' :: sign :: Nat.toDigits 10 leading.natAbs

/-- The shortest decimal that is read as a finite number, with at least one digit behind the
point or an exponent. -/
def floatText (x : Binary64) : List Char :=
  let d := Decimal.shortest x
  let digits := Nat.toDigits 10 d.digits
  let leading := d.exponent + digits.length - 1
  let sign := if x.negative then ['-'] else []
  sign ++
    if positionalRange.1 ≤ leading ∧ leading ≤ positionalRange.2 then positional digits d.exponent
    else scientific digits leading

/-- A number of double precision, or `null`. -/
def numberText (x : Binary64) : List Char :=
  if x.isFinite then floatText x else ['n', 'u', 'l', 'l']

end GameShelf.Json
