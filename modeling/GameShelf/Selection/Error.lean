/-!
# What can go wrong with a selection

The causes for which a selection is not changed or not saved, and their wording.
-/

namespace GameShelf

/-- Why an operation on a selection fails. -/
inductive SelectionError where
  /-- Nothing to choose from. -/
  | noCandidates
  /-- Nothing to remove. -/
  | emptyList
  /-- No name answers to the address. -/
  | notFound (address : String)
  /-- The number is not one of a list of the given size. -/
  | indexOutOfRange (index : Int) (size : Nat)
  /-- The range does not begin within a list of the given size, or ends before it begins. -/
  | invalidRange (first last size : Nat)
  /-- The selection could not be written to the path. -/
  | save (path cause : String)
deriving DecidableEq, Repr

namespace SelectionError

def message : SelectionError → String
  | noCandidates => "no games to choose from"
  | emptyList => "the game list is empty"
  | notFound address => "'" ++ address ++ "' does not match any game"
  | indexOutOfRange index size =>
    "index " ++ index.repr ++ " is out of range (1-" ++ size.repr ++ ")"
  | invalidRange first last size =>
    "invalid range " ++ first.repr ++ "-" ++ last.repr ++ " for " ++ size.repr ++ " games"
  | save path cause => "failed to save game list to " ++ path ++ ": " ++ cause

/-- What brought the error about, in words, when that lies outside the selection. -/
def cause? : SelectionError → Option String
  | save _ cause => some cause
  | _ => none

/-- Whether the error is about the choice of games, and not about a file. -/
def isAboutAddress : SelectionError → Bool
  | save _ _ => false
  | _ => true

end SelectionError

end GameShelf
