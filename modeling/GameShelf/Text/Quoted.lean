import GameShelf.Text.Printable

/-!
# Quoted text in messages

A text in a message stands between quotes. Quotes and backslashes within it are escaped, and so are
all characters that would not be seen: those that have a letter for it by a backslash and the
letter, the others by their code point in hexadecimal.
-/

namespace GameShelf.Text

def quotedChar (c : Char) : List Char :=
  if c = '"' ∨ c = '\\' then ['\\', c]
  else if c = '\t' then ['\\', 't']
  else if c = '\n' then ['\\', 'n']
  else if c = '\r' then ['\\', 'r']
  else if c.toNat = 0 then ['\\', '0']
  else if isPrintable c then [c]
  else ['\\', 'u', '\x7b'] ++ Nat.toDigits 16 c.toNat ++ ['\x7d']

def quoted (cs : List Char) : List Char :=
  '"' :: cs.flatMap quotedChar ++ ['"']

end GameShelf.Text
