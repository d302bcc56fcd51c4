import GameShelf.Game.Column
import GameShelf.Proofs.Query.Order
import GameShelf.Proofs.Text.Order

/-!
# The orders of games

All games hold values of one sort in a column, so the values are in a total preorder there: names
by their folded bytes, whole numbers by value, other numbers by their rank. Sorting games on any
column therefore orders them.
-/

namespace GameShelf

/-- The games by what they hold in a column. -/
theorem transCmp_value (column : Column) :
    Std.TransCmp fun a b : Game ↦
      (Record.value a column).sortOrder (Record.value b column) := by
  cases column with
  | name => exact transCmp_on Text.compareFold Game.name
  | minPlayers => exact transCmp_on compare fun game : Game ↦ game.minPlayers.toInt
  | maxPlayers => exact transCmp_on compare fun game : Game ↦ game.maxPlayers.toInt
  | difficulty => exact transCmp_on compare fun game : Game ↦ game.difficulty.rank
  | rating => exact transCmp_on compare fun game : Game ↦ game.rating.rank
  | year => exact transCmp_on compare fun game : Game ↦ game.yearPublished.toInt
  | id | minTime | maxTime | rank => exact { eq_swap := rfl, isLE_trans := fun _ _ ↦ rfl }

instance (order : SortOrder Column) : Std.TransCmp (order.compare (T := Game)) :=
  have := transCmp_value order.field
  inferInstanceAs (Std.TransCmp fun a b : Game ↦
    order.direction.apply ((Record.value a order.field).sortOrder (Record.value b order.field)))

end GameShelf
