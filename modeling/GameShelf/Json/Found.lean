import GameShelf.Json.Number
import GameShelf.Json.Token
import GameShelf.Text.Quoted

/-!
# What a token is found as

What a reader finds where it expects a value: a text, a number, another scalar, or the beginning of
an array or object. `Token.found?` says what a token is in this sense. A whole number is an integer
when it has at most 64 bits, and negative zero is not: it is a number of double precision, like
every number with a fraction, with an exponent or with more bits.
-/

namespace GameShelf.Json

/-- What is found where a value is expected. -/
inductive Found where
  | null
  | boolean (b : Bool)
  | integer (n : Int)
  | float (x : Binary64)
  | string (s : String)
  | array
  | object
deriving DecidableEq, Repr

/-- Whether an integer is kept as such: unsigned when it is not negative, and signed otherwise. -/
def fitsInteger (n : Int) : Bool :=
  Int64.minValue.toInt ≤ n && n < UInt64.size

/-- What a number is found as, if it is not beyond double precision. -/
def NumberText.found? (n : NumberText) : Option Found :=
  let digits := Numeral.digitsValue n.whole
  let value := Numeral.applySign n.negative digits
  if n.isWhole && fitsInteger value && !(n.negative && digits == 0) then some (.integer value)
  else (some n.toDecimal.toBinary64).filter Binary64.isFinite |>.map .float

/-- What a token is found as, if a value can begin with it. -/
def Token.found? : Token → Option Found
  | .null => some .null
  | .boolean b => some (.boolean b)
  | .number n => n.found?
  | .string pieces => (text? pieces).map fun cs ↦ .string (String.ofList cs)
  | .beginArray => some .array
  | .beginObject => some .object
  | _ => none

def Found.description : Found → String
  | null => "null"
  | boolean true => "boolean `true`"
  | boolean false => "boolean `false`"
  | integer n => "integer `" ++ n.repr ++ "`"
  | float x => "floating point `" ++ String.ofList (floatText x) ++ "`"
  | string s => "string " ++ String.ofList (Text.quoted s.toList)
  | array => "sequence"
  | object => "map"

end GameShelf.Json
