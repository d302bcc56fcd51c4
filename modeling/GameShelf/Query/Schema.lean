import GameShelf.Query.Value

/-!
# Records and their fields

A type of records has a type of fields. A field has a canonical name, may answer to further names,
and has a kind when it can be filtered and sorted on. A record holds a value in each field.
-/

namespace GameShelf

/-- What a field that can be queried holds. -/
inductive Kind where
  | text
  | integer
  | float
deriving DecidableEq, Repr

def Kind.description : Kind → String
  | text => "text"
  | integer => "integer"
  | float => "number"

/-- The fields that a clause or a sort order may name. -/
class Schema (F : Type) where
  /-- The canonical name of a field. -/
  name : F → String
  /-- The kind of a field that can be queried. -/
  kind? : F → Option Kind
  /-- The field that a text names. -/
  ofName? : String → Option F

/-- Records that hold a value in each field. -/
class Record (T : Type) (F : outParam Type) where
  /-- What a record holds in a field. -/
  value : T → F → Value

/-- A value on its own is a record with a single field. -/
instance : Record Value Unit where
  value v _ := v

/-- The field of a given name that can be queried, with its kind. -/
def Schema.queryable? {F : Type} [Schema F] (name : String) : Option (F × Kind) :=
  (ofName? name).bind fun field ↦ (kind? field).map fun kind ↦ (field, kind)

end GameShelf
