import GameShelf.Query.Schema

/-!
# What can go wrong with a filter or a sort order

The causes for which a filter or a sort order is refused, and their wording.
-/

namespace GameShelf

/-- Why a filter or a sort order is refused. -/
inductive QueryError where
  /-- The text is not a value of the field, which takes the given kind. -/
  | invalidValue (field value : String) (expected : Kind)
  /-- Nothing can be sorted by a field of this name. -/
  | unsupportedSort (name : String)
deriving DecidableEq, Repr

def QueryError.message : QueryError → String
  | invalidValue field value expected =>
    "invalid value '" ++ value ++ "' for " ++ field ++ ": expected " ++ expected.description
  | unsupportedSort name => "sorting by '" ++ name ++ "' is not supported"

end GameShelf
