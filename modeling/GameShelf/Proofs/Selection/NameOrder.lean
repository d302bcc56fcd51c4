import GameShelf.Proofs.Selection.Address
import GameShelf.Proofs.Text.CodePoint

/-!
# The order of names

Names are compared in three ways: for sorting, by their bytes in lower case; as keys of a selection,
which are trimmed and put in lower case; and as addresses, which are trimmed and tested for equality
up to letter case. The three agree: each of them compares the code points of the names in lower
case, and the last two leave out the blanks around them.
-/

namespace GameShelf.NameKey

theorem compare_ofName (a b : String) :
    (ofName a).compare (ofName b) = Text.compareFold (Text.trim a) (Text.trim b) :=
  (Text.compareFold_eq_compareBytes (Text.trim a) (Text.trim b)).symm

/-- A key is the key of its own text. -/
theorem ofName_text_ofName (name : String) : ofName (ofName name).text = ofName name := by
  rw [ofName, ofName, Text.trim_fold, Text.trim_trim, Text.fold_fold]

/-- Up to letter case, names are in the order of the code points of their lower case, and equal when
they agree. Keys have the order of the trimmed names. Two names have one key when the trimmed names
agree, so a name that is used as an address finds the first name with its key. A key is left as it
is when it is taken for a name. -/
theorem comparisons_agree (a b : String) :
    Text.compareFold a b = Text.compareCodePoints (Text.fold a) (Text.fold b) ∧
      (Text.compareFold a b = .eq ↔ Text.equalFold a b = true) ∧
      (ofName a).compare (ofName b) = Text.compareFold (Text.trim a) (Text.trim b) ∧
      (ofName a = ofName b ↔ Text.equalFold (Text.trim a) (Text.trim b) = true) ∧
      (∀ names, Address.position? (Text.trim b) names =
        names.findIdx? fun name ↦ ofName name = ofName b) ∧
      ofName (ofName a).text = ofName a := by
  refine ⟨?_, Text.compareFold_eq_eq_iff, compare_ofName a b, ofName_eq_iff,
    Address.position?_eq b, ofName_text_ofName a⟩
  rw [Text.compareFold_eq_compareBytes, Text.compareBytes_eq_compareCodePoints]

end GameShelf.NameKey
