import GameShelf.Game.Reading
import GameShelf.Json.Number
import GameShelf.Json.Quoted

/-!
# Writing a game as JSON text

A game is written as an object without blanks, its members in the order of the record.
-/

namespace GameShelf

namespace Game

/-- The value of a field as JSON text. -/
def fieldText (g : Game) : Column → List Char
  | .name => Json.stringText g.name.toList
  | .id => Json.integerText g.id.toNat
  | .minPlayers => Json.integerText g.minPlayers.toInt
  | .maxPlayers => Json.integerText g.maxPlayers.toInt
  | .minTime => Json.integerText g.minPlayTime.toInt
  | .maxTime => Json.integerText g.maxPlayTime.toInt
  | .difficulty => Json.numberText g.difficulty
  | .rank => Json.integerText g.rank.toInt
  | .rating => Json.numberText g.rating
  | .year => Json.integerText g.yearPublished.toInt

def memberTexts (g : Game) : List (List Char) :=
  Column.all.map fun column ↦ Json.stringText column.member.toList ++ ':' :: g.fieldText column

def toJson (g : Game) : String :=
  String.ofList ('\x7b' :: [','].intercalate g.memberTexts ++ ['\x7d'])

end Game

end GameShelf
