import GameShelf.Binary64.Basic

/-!
# Board games

The record of a board game. Two records are the same when they agree in every field, numbers of
double precision bit by bit.
-/

namespace GameShelf

structure Game where
  name : String
  id : UInt32
  minPlayers : Int32
  maxPlayers : Int32
  minPlayTime : Int32
  maxPlayTime : Int32
  difficulty : Binary64
  rank : Int32
  rating : Binary64
  yearPublished : Int32
deriving DecidableEq, Repr

/-- The game of a given name whose other fields are zero. -/
def Game.named (name : String) : Game where
  name := name
  id := 0
  minPlayers := 0
  maxPlayers := 0
  minPlayTime := 0
  maxPlayTime := 0
  difficulty := .zero
  rank := 0
  rating := .zero
  yearPublished := 0

end GameShelf
