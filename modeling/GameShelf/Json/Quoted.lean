/-!
# Strings in JSON text

A string is written between quotes. Only the quote, the backslash and control characters are
escaped: by a letter if there is one for the character, and otherwise by its code point in four
hexadecimal digits.
-/

namespace GameShelf.Json

/-- A control character, by its code point in four hexadecimal digits. -/
def escapedControl (c : Char) : List Char :=
  let digits := Nat.toDigits 16 c.toNat
  ['\\', 'u'] ++ List.replicate (4 - digits.length) '0' ++ digits

def stringChar (c : Char) : List Char :=
  if c = '"' ∨ c = '\\' then ['\\', c]
  else if c = '\x08' then ['\\', 'b']
  else if c = '\t' then ['\\', 't']
  else if c = '\n' then ['\\', 'n']
  else if c = '\x0c' then ['\\', 'f']
  else if c = '\r' then ['\\', 'r']
  else if c.toNat < 0x20 then escapedControl c
  else [c]

def stringText (cs : List Char) : List Char :=
  '"' :: cs.flatMap stringChar ++ ['"']

end GameShelf.Json
