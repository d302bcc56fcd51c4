/-!
# Letter case

Two texts are the same up to letter case when they agree after the letters `A` to `Z` have been
replaced by `a` to `z`. No other character has a case here: `É` and `é` are different letters.
Texts are ordered by their folded UTF-8 bytes.
-/

namespace GameShelf.Text

/-- The text with the letters `A` to `Z` in lower case. -/
def fold (s : String) : String :=
  String.ofList (s.toList.map Char.toLower)

@[simp]
theorem toList_fold (s : String) : (fold s).toList = s.toList.map Char.toLower := by
  simp [fold]

def equalFold (a b : String) : Bool :=
  a.toList.map Char.toLower == b.toList.map Char.toLower

def utf8 (s : String) : List UInt8 :=
  s.toList.flatMap String.utf8EncodeChar

def foldByte (b : UInt8) : UInt8 :=
  if 0x41 ≤ b ∧ b ≤ 0x5A then b + 0x20 else b

/-- The order of two texts by their bytes in UTF-8. -/
def compareBytes (a b : String) : Ordering :=
  List.compareLex compare (utf8 a) (utf8 b)

/-- The order of two texts by their bytes in UTF-8, up to letter case. -/
def compareFold (a b : String) : Ordering :=
  List.compareLex compare ((utf8 a).map foldByte) ((utf8 b).map foldByte)

theorem equalFold_iff {a b : String} :
    equalFold a b = true ↔ a.toList.map Char.toLower = b.toList.map Char.toLower := by
  simp [equalFold]

end GameShelf.Text
