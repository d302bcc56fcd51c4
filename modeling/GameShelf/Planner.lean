import GameShelf.Catalog
import GameShelf.Game.Column
import GameShelf.Query.Expression
import GameShelf.Query.Order

/-!
# Planning from a catalog

A planner shows a view of its catalog: all games at first, later those that match a filter, perhaps
sorted. Every filter starts from the whole catalog, not from the view before it, and an operation
that fails yields no planner, so the one before it stays as it is.
-/

namespace GameShelf

def filterGames (expression : String) (games : List Game) : Except QueryError (List Game) :=
  (compile expression).result.map fun query ↦ query.filter games

def sortGames (column : Column) (direction : Direction) (games : List Game) :
    Except QueryError (List Game) :=
  sortOn column direction games

structure Planner where
  catalog : Catalog
  view : List Game
deriving DecidableEq

namespace Planner

/-- The planner that shows all games of a catalog. -/
def ofCatalog (catalog : Catalog) : Planner :=
  { catalog, view := catalog.games }

def reset (p : Planner) : Planner :=
  { p with view := p.catalog.games }

def filter (p : Planner) (expression : String) : Except QueryError Planner :=
  (filterGames expression p.catalog.games).map fun view ↦ { p with view }

/-- Shows the games of the catalog that match an expression, sorted on a column. An expression that
fails is reported before a column that cannot be sorted on. -/
def filterSorted (p : Planner) (expression : String) (column : Column) (direction : Direction) :
    Except QueryError Planner :=
  ((filterGames expression p.catalog.games).bind (sortGames column direction)).map fun view ↦
    { p with view }

@[simp]
theorem view_ofCatalog (catalog : Catalog) : (ofCatalog catalog).view = catalog.games := rfl

@[simp]
theorem reset_eq (p : Planner) : p.reset = ofCatalog p.catalog := rfl

end Planner

end GameShelf
