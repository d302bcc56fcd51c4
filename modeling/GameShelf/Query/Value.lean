import GameShelf.Binary64.Rounding
import GameShelf.Text.Fold

/-!
# Values of fields

What a record holds in a field: a text, a number, or nothing. A number is whole or of double
precision. Numbers of the same sort are compared exactly; a whole number is rounded to double
precision before it is compared with one of double precision. Besides the order by value, in which
a NaN has no place, there is one of all numbers, for sorting.
-/

namespace GameShelf

/-- A whole number or a number of double precision. -/
inductive Number where
  | integer (n : Int)
  | float (x : Binary64)
deriving DecidableEq, Repr

namespace Number

def toBinary64 : Number → Binary64
  | integer n => Binary64.ofInt n
  | float x => x

/-- The order of two numbers by value; a NaN has no place in it. -/
def compare? : Number → Number → Option Ordering
  | integer a, integer b => some (compare a b)
  | a, b => Binary64.partialCompare a.toBinary64 b.toBinary64

/-- The order of two numbers for sorting, in which every number has a place. -/
def totalCompare : Number → Number → Ordering
  | integer a, integer b => compare a b
  | a, b => Binary64.totalCompare a.toBinary64 b.toBinary64

/-- Whether two numbers are of the same sort and equal in value: zeros of either sign are equal, and
a NaN equals nothing. -/
def sameValue : Number → Number → Bool
  | integer a, integer b => a == b
  | float x, float y => Binary64.partialCompare x y == some .eq
  | _, _ => false

end Number

/-- What a record holds in a field. -/
inductive Value where
  | text (s : String)
  | number (n : Number)
  | absent
deriving DecidableEq, Repr

namespace Value

/-- The order of two values: texts up to letter case, numbers by value, and an absent value after
every present one. A text and a number have no order. -/
def compare? : Value → Value → Option Ordering
  | text a, text b => some (Text.compareFold a b)
  | number a, number b => a.compare? b
  | absent, absent => some .eq
  | absent, _ => some .gt
  | _, absent => some .lt
  | _, _ => none

/-- The order of two values for sorting: every number has a place, and values without an order
count as equal. -/
def sortOrder : Value → Value → Ordering
  | number a, number b => a.totalCompare b
  | a, b => (a.compare? b).getD .eq

/-- Whether two values are of the same sort and equal: texts to the letter, numbers by value. -/
def sameValue : Value → Value → Bool
  | text a, text b => a == b
  | number a, number b => a.sameValue b
  | absent, absent => true
  | _, _ => false

end Value

end GameShelf
