import GameShelf.Game.Basic

/-!
# Catalogs

A catalog is a set of board games. It lists each game once, in the order in which the games were
first given, and two catalogs are equal as sets when they hold the same games.
-/

namespace GameShelf

/-- The games without the repetitions, in the order of their first occurrences. -/
def distinctGames : List Game → List Game
  | [] => []
  | g :: gs => g :: (distinctGames gs).filter (· ≠ g)

@[simp]
theorem mem_distinctGames {g : Game} {gs : List Game} : g ∈ distinctGames gs ↔ g ∈ gs := by
  induction gs with
  | nil => simp [distinctGames]
  | cons h gs ih =>
    by_cases hg : g = h <;> simp [distinctGames, hg, ih]

theorem nodup_distinctGames (gs : List Game) : (distinctGames gs).Nodup := by
  induction gs with
  | nil => simp [distinctGames]
  | cons h gs ih =>
    rw [distinctGames, List.nodup_cons]
    exact ⟨by simp, ih.sublist List.filter_sublist⟩

structure Catalog where
  games : List Game
  nodup : games.Nodup
deriving DecidableEq

namespace Catalog

def ofList (gs : List Game) : Catalog where
  games := distinctGames gs
  nodup := nodup_distinctGames gs

def size (c : Catalog) : Nat :=
  c.games.length

def isEmpty (c : Catalog) : Bool :=
  c.games.isEmpty

def contains (c : Catalog) (g : Game) : Bool :=
  c.games.contains g

/-- Whether two catalogs are as large as each other, and all games of one are in the other. -/
def sameSet (c d : Catalog) : Bool :=
  c.size == d.size && c.games.all d.contains

@[simp]
theorem contains_ofList (gs : List Game) (g : Game) :
    (ofList gs).contains g = gs.contains g := by
  rw [Bool.eq_iff_iff]
  simp [contains, ofList]

end Catalog

end GameShelf
