import GameShelf.Game.Basic
import GameShelf.Query.Error
import GameShelf.Text.Blank

/-!
# Columns of the game table

The columns that an expression may name. A name is recognised in any letter case and with blanks
around it; three columns have a second name. Six columns can be filtered and sorted on.
-/

namespace GameShelf

inductive Column where
  | name
  | id
  | minPlayers
  | maxPlayers
  | minTime
  | maxTime
  | difficulty
  | rank
  | rating
  | year
deriving DecidableEq, Repr

namespace Column

/-- All columns, in the order of the record. -/
def all : List Column :=
  [name, id, minPlayers, maxPlayers, minTime, maxTime, difficulty, rank, rating, year]

/-- The name under which a column is reported. -/
def canonicalName : Column → String
  | name => "name"
  | id => "id"
  | minPlayers => "minPlayers"
  | maxPlayers => "maxPlayers"
  | minTime => "minPlayTime"
  | maxTime => "maxPlayTime"
  | difficulty => "difficulty"
  | rank => "rank"
  | rating => "rating"
  | year => "year"

/-- What a column holds, if it can be filtered and sorted on. -/
def kind? : Column → Option Kind
  | name => some .text
  | minPlayers | maxPlayers | year => some .integer
  | difficulty | rating => some .float
  | id | minTime | maxTime | rank => none

/-- The names that a column answers to, in lower case. -/
def aliases : Column → List String
  | name => ["name"]
  | id => ["id"]
  | minPlayers => ["minplayers"]
  | maxPlayers => ["maxplayers"]
  | minTime => ["mintime", "minplaytime"]
  | maxTime => ["maxtime", "maxplaytime"]
  | difficulty => ["difficulty"]
  | rank => ["rank"]
  | rating => ["rating"]
  | year => ["year", "yearpublished"]

/-- The column that a text names, in any letter case and with blanks around it. -/
def ofName? (s : String) : Option Column :=
  all.find? fun column ↦ column.aliases.contains (Text.fold (Text.trim s))

/-- The column that a text names, or the error that quotes the text as it is. -/
def byName (s : String) : Except QueryError Column :=
  match ofName? s with
  | some column => .ok column
  | none => .error (.unsupportedSort s)

def position (column : Column) : Nat :=
  all.idxOf column

def isQueryable (column : Column) : Bool :=
  column.kind?.isSome

instance : Schema Column where
  name := canonicalName
  kind? := kind?
  ofName? := ofName?

theorem mem_all (column : Column) : column ∈ all := by
  cases column <;> decide

/-- Every column is found under its own name. -/
theorem ofName?_canonicalName (column : Column) : ofName? column.canonicalName = some column := by
  cases column <;> decide +kernel

end Column

/-- What a game holds in a column that can be queried; the other columns are absent. -/
instance : Record Game Column where
  value game column :=
    match column with
    | .name => .text game.name
    | .minPlayers => .number (.integer game.minPlayers.toInt)
    | .maxPlayers => .number (.integer game.maxPlayers.toInt)
    | .difficulty => .number (.float game.difficulty)
    | .rating => .number (.float game.rating)
    | .year => .number (.integer game.yearPublished.toInt)
    | .id | .minTime | .maxTime | .rank => .absent

end GameShelf
