import GameShelf.Numeral.Signed
import GameShelf.Selection.Error
import GameShelf.Text.Blank
import GameShelf.Text.Fold

/-!
# Addresses

An address picks names from a list: all of them, one by its name, a range by the numbers of its
first and last name, or one by its number. Numbers start from one. The forms are tried in this
order, so a name hides the range or number that is written like it.
-/

namespace GameShelf

/-- What an address stands for in a list of names. -/
inductive Address where
  /-- Every name. -/
  | all
  /-- The name at a position, counted from zero. -/
  | name (position : Nat)
  /-- The names from one number to another, both counted from one. -/
  | range (first last : Nat)
  /-- The name of a number, counted from one. -/
  | index (number : Nat)
deriving DecidableEq, Repr

/-- The positions from `start` up to `stop`, which is not among them. -/
structure Span where
  start : Nat
  stop : Nat
deriving DecidableEq, Repr

namespace Span

def size (s : Span) : Nat :=
  s.stop - s.start

def slice {α : Type} (s : Span) (xs : List α) : List α :=
  (xs.take s.stop).drop s.start

end Span

namespace Address

/-- The word that stands for every name, in any letter case. -/
def wildcard : String := "ALL"

def isWildcard (address : String) : Bool :=
  Text.equalFold (Text.trim address) wildcard

/-- The two numbers of a range: digits, a dash and digits, with blanks around the dash only. Each
number has at most 64 bits. -/
def bounds? (cs : List Char) : Option (Nat × Nat) :=
  match (cs.dropWhile Char.isDigit).dropWhile Text.isBlank with
  | '-' :: rest =>
    match Numeral.natural? (cs.takeWhile Char.isDigit),
      Numeral.natural? (rest.dropWhile Text.isBlank) with
    | some first, some last =>
      if first < UInt64.size ∧ last < UInt64.size then some (first, last) else none
    | _, _ => none
  | _ => none

/-- The number that an address writes, if it has at most 64 bits. -/
def number? (cs : List Char) : Option Int :=
  (Numeral.integer? cs).filter fun n ↦ Int64.minValue.toInt ≤ n && n ≤ Int64.maxValue.toInt

/-- The first position of a name, up to letter case and the blanks around it. -/
def position? (name : String) (names : List String) : Option Nat :=
  names.findIdx? fun candidate ↦ Text.equalFold (Text.trim candidate) name

/-- What an address stands for in a list of names. The last number of a range may exceed the size
of the list, the first may not. -/
def resolve (address : String) (names : List String) : Except SelectionError Address :=
  let text := Text.trim address
  if isWildcard text then .ok all
  else match position? text names with
    | some position => .ok (name position)
    | none => match bounds? text.toList with
      | some (first, last) =>
        if first = 0 ∨ last < first ∨ names.length < first then
          .error (.invalidRange first last names.length)
        else .ok (range first (min last names.length))
      | none => match number? text.toList with
        | some n =>
          if n < 1 ∨ names.length < n then .error (.indexOutOfRange n names.length)
          else .ok (index n.toNat)
        | none => .error (.notFound text)

def span (address : Address) (size : Nat) : Span :=
  match address with
  | all => { start := 0, stop := size }
  | name position => { start := position, stop := position + 1 }
  | range first last => { start := first - 1, stop := last }
  | index number => { start := number - 1, stop := number }

end Address

end GameShelf
