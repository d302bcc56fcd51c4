import GameShelf.Text.Blank
import GameShelf.Text.Fold

/-!
# Keys of names

Two names that differ only in letter case or in the blanks around them are one name. The key of a
name is the name without those differences, and keys are ordered by their bytes.
-/

namespace GameShelf

/-- What identifies a name. -/
structure NameKey where
  text : String
deriving DecidableEq, Repr

namespace NameKey

def ofName (name : String) : NameKey :=
  ⟨Text.fold (Text.trim name)⟩

def compare (a b : NameKey) : Ordering :=
  Text.compareBytes a.text b.text

end NameKey

end GameShelf
