import GameShelf.Query.Error
import GameShelf.Text.Blank

/-!
# Sort orders

A sort order compares records on one field that can be queried, ascending or descending. Text is
compared up to letter case, and numbers by their total order. Sorting is stable: records that are
equal on the field keep their order in both directions.

Among texts, among integers and among reals the comparison is a total preorder. Where they are mixed
it need not be: a text is equal to every number, and two large integers may both be equal to one
real. So the list that sorting gives is fixed here for every comparison, by inserting one record
after another.
-/

namespace GameShelf

inductive Direction where
  | ascending
  | descending
deriving DecidableEq, Repr

def Direction.apply : Direction → Ordering → Ordering
  | ascending, o => o
  | descending, o => o.swap

/-- A field to compare records on, and a direction. -/
structure SortOrder (F : Type) where
  field : F
  direction : Direction := .ascending
deriving DecidableEq, Repr

namespace SortOrder

section Construction

variable {F : Type} [Schema F]

/-- The order by a field, if it can be queried. -/
def on (field : F) (direction : Direction) : Except QueryError (SortOrder F) :=
  match Schema.kind? field with
  | some _ => .ok { field, direction }
  | none => .error (.unsupportedSort (Schema.name field))

/-- The order by the field of a given name. Blanks around the name do not count. -/
def byName (name : String) (direction : Direction) : Except QueryError (SortOrder F) :=
  match Schema.ofName? (Text.trim name) with
  | some field => on field direction
  | none => .error (.unsupportedSort (Text.trim name))

end Construction

variable {T F : Type} [Record T F]

def compare (order : SortOrder F) (a b : T) : Ordering :=
  order.direction.apply ((Record.value a order.field).sortOrder (Record.value b order.field))

/-- A record put among sorted ones that are listed from last to first. It passes those that it is
less than, and stops at the first that it is not less than. -/
def place (order : SortOrder F) (r : T) : List T → List T
  | [] => [r]
  | s :: rest =>
    if order.compare r s = .lt then s :: order.place r rest else r :: s :: rest

/-- The records in order, each placed after those before it; those that are equal on the field keep
their places. -/
def sort (order : SortOrder F) (rs : List T) : List T :=
  (rs.foldl (fun sorted r ↦ order.place r sorted) []).reverse

end SortOrder

def sortOn {T F : Type} [Schema F] [Record T F] (field : F) (direction : Direction)
    (rs : List T) : Except QueryError (List T) :=
  (SortOrder.on field direction).map fun order ↦ order.sort rs

/-- How records compare on the field of a given name, if it can be queried. -/
def comparatorByName {T F : Type} [Schema F] [Record T F] (name : String)
    (direction : Direction) : Except QueryError (T → T → Ordering) :=
  (SortOrder.byName name direction).map SortOrder.compare

/-- Placing a record adds it once, and keeps the others. -/
theorem SortOrder.place_perm {T F : Type} [Record T F] (order : SortOrder F) (r : T)
    (sorted : List T) : (order.place r sorted).Perm (r :: sorted) := by
  fun_induction SortOrder.place order r sorted with
  | case1 => exact .refl _
  | case2 s rest _ ih => exact (ih.cons s).trans (.swap r s rest)
  | case3 => exact .refl _

/-- Placing records one after another adds them all to those that are placed. -/
theorem SortOrder.foldl_place_perm {T F : Type} [Record T F] (order : SortOrder F)
    (rs sorted : List T) :
    (rs.foldl (fun sorted r ↦ order.place r sorted) sorted).Perm (rs ++ sorted) := by
  induction rs generalizing sorted with
  | nil => exact .refl _
  | cons r rs ih =>
    exact ((ih _).trans ((order.place_perm r sorted).append_left rs)).trans
      List.perm_middle

/-- Sorting keeps every record as often as it occurs. -/
theorem SortOrder.sort_perm {T F : Type} [Record T F] (order : SortOrder F) (rs : List T) :
    (order.sort rs).Perm rs :=
  (List.reverse_perm _).trans (by simpa using order.foldl_place_perm rs [])

end GameShelf
