import GameShelf.Numeral.Decimal

/-!
# Tokens of JSON text

The tokens of a JSON text, without the blanks between them. A string keeps its escapes of UTF-16
code units, so that it can be passed over without asking whether they form characters; `text?`
decodes it. A number keeps its parts, so that it can be passed over without asking whether it is in
range. The token `malformed` stands for a text that goes on with no token; it is the last one.
-/

namespace GameShelf.Json

/-- A part of a string: a character, or a code unit of UTF-16 written in hexadecimal. -/
inductive Piece where
  | char (c : Char)
  | unit (n : Nat)
deriving DecidableEq, Repr

structure NumberText where
  negative : Bool
  whole : List Char
  fraction : Option (List Char)
  exponent : Option Int
deriving DecidableEq, Repr

inductive Token where
  | beginObject
  | endObject
  | beginArray
  | endArray
  | colon
  | comma
  | null
  | boolean (b : Bool)
  | number (n : NumberText)
  | string (pieces : List Piece)
  | malformed
deriving DecidableEq, Repr

/-! ## Strings -/

def hexValue? (c : Char) : Option Nat :=
  if '0' ≤ c ∧ c ≤ '9' then some (c.toNat - '0'.toNat)
  else if 'a' ≤ c ∧ c ≤ 'f' then some (c.toNat - 'a'.toNat + 10)
  else if 'A' ≤ c ∧ c ≤ 'F' then some (c.toNat - 'A'.toNat + 10)
  else none

/-- The code unit that four hexadecimal digits write. -/
def unit? (a b c d : Char) : Option Nat := do
  return (((← hexValue? a) * 16 + (← hexValue? b)) * 16 + (← hexValue? c)) * 16 + (← hexValue? d)

/-- The character that a backslash and a letter write. -/
def escaped? : Char → Option Char
  | '"' => some '"'
  | '\\' => some '\\'
  | '/' => some '/'
  | 'b' => some '\x08'
  | 'f' => some '\x0c'
  | 'n' => some '\n'
  | 'r' => some '\r'
  | 't' => some '\t'
  | _ => none

/-- The pieces of a string up to its closing quote, and what follows the quote. Control characters
have to be escaped. -/
def stringPieces? : List Char → Option (List Piece × List Char)
  | [] => none
  | '"' :: rest => some ([], rest)
  | '\\' :: 'u' :: a :: b :: c :: d :: rest =>
    match unit? a b c d with
    | none => none
    | some n => (stringPieces? rest).map fun (pieces, rest) ↦ (.unit n :: pieces, rest)
  | '\\' :: c :: rest =>
    match escaped? c with
    | none => none
    | some e => (stringPieces? rest).map fun (pieces, rest) ↦ (.char e :: pieces, rest)
  | c :: rest =>
    if c.toNat < 0x20 ∨ c = '\\' then none
    else (stringPieces? rest).map fun (pieces, rest) ↦ (.char c :: pieces, rest)

/-- Whether a code unit is the first of a pair. -/
def isLeading (n : Nat) : Bool :=
  0xD800 ≤ n && n < 0xDC00

/-- Whether a code unit is the second of a pair. -/
def isTrailing (n : Nat) : Bool :=
  0xDC00 ≤ n && n < 0xE000

/-- The characters of a string. Code units that come in pairs have to do so. -/
def text? : List Piece → Option (List Char)
  | [] => some []
  | .char c :: pieces => (text? pieces).map (c :: ·)
  | [.unit n] => if isLeading n || isTrailing n then none else some [Char.ofNat n]
  | .unit n :: .char c :: pieces =>
    if isLeading n || isTrailing n then none
    else (text? (.char c :: pieces)).map (Char.ofNat n :: ·)
  | .unit n :: .unit m :: pieces =>
    if isLeading n then
      if isTrailing m then
        let code := 0x10000 + (n - 0xD800) * 0x400 + (m - 0xDC00)
        (text? pieces).map (Char.ofNat code :: ·)
      else none
    else if isTrailing n then none
    else (text? (.unit m :: pieces)).map (Char.ofNat n :: ·)

/-! ## Numbers -/

/-- The digits at the front, of which there is at least one, and what follows them. -/
def digits? (cs : List Char) : Option (List Char × List Char) :=
  let digits := cs.takeWhile Char.isDigit
  if digits.isEmpty then none else some (digits, cs.dropWhile Char.isDigit)

/-- The whole part of a number, which has no leading zero, and what follows it. -/
def wholePart? (cs : List Char) : Option (List Char × List Char) :=
  (digits? cs).filter fun (digits, _) ↦ digits.head? != some '0' || digits.length == 1

/-- The digits after a point, if there is one, and what follows them. -/
def fractionPart? : List Char → Option (Option (List Char) × List Char)
  | '.' :: cs => (digits? cs).map fun (digits, rest) ↦ (some digits, rest)
  | cs => some (none, cs)

/-- The power of ten after the letter `e` or `E`, if there is one, and what follows it. -/
def exponentPart? : List Char → Option (Option Int × List Char)
  | [] => some (none, [])
  | c :: cs =>
    if c = 'e' ∨ c = 'E' then
      let (negative, body) := Numeral.takeSign cs
      (digits? body).map fun (digits, rest) ↦
        (some (Numeral.applySign negative (Numeral.digitsValue digits)), rest)
    else some (none, c :: cs)

/-- The number at the front, without its sign, and what follows it. -/
def number? (negative : Bool) (cs : List Char) : Option (NumberText × List Char) := do
  let (whole, rest) ← wholePart? cs
  let (fraction, rest) ← fractionPart? rest
  let (exponent, rest) ← exponentPart? rest
  return ({ negative, whole, fraction, exponent }, rest)

def NumberText.toDecimal (n : NumberText) : Decimal :=
  let fraction := n.fraction.getD []
  { negative := n.negative
    digits := Numeral.digitsValue (n.whole ++ fraction)
    exponent := n.exponent.getD 0 - fraction.length }

/-- Whether a number is written without a fraction and an exponent. -/
def NumberText.isWhole (n : NumberText) : Bool :=
  n.fraction.isNone && n.exponent.isNone

/-! ## Texts -/

/-- Whether a character may stand between tokens. -/
def isBlank (c : Char) : Bool :=
  c == ' ' || c == '\t' || c == '\n' || c == '\r'

/-- The token at the front of a text that does not begin with a blank, and what follows it. -/
def token? : List Char → Option (Token × List Char)
  | '{' :: rest => some (.beginObject, rest)
  | '}' :: rest => some (.endObject, rest)
  | '[' :: rest => some (.beginArray, rest)
  | ']' :: rest => some (.endArray, rest)
  | ':' :: rest => some (.colon, rest)
  | ',' :: rest => some (.comma, rest)
  | 'n' :: 'u' :: 'l' :: 'l' :: rest => some (.null, rest)
  | 't' :: 'r' :: 'u' :: 'e' :: rest => some (.boolean true, rest)
  | 'f' :: 'a' :: 'l' :: 's' :: 'e' :: rest => some (.boolean false, rest)
  | '"' :: rest => (stringPieces? rest).map fun (pieces, rest) ↦ (.string pieces, rest)
  | '-' :: rest => (number? true rest).map fun (n, rest) ↦ (.number n, rest)
  | cs => (number? false cs).map fun (n, rest) ↦ (.number n, rest)

end GameShelf.Json
