import GameShelf.Proofs.Game.Order
import GameShelf.Proofs.Query.Join
import GameShelf.Proofs.Query.StableSort

/-!
# Filters and sorts of games

Neither looks at the other: a game matches an expression wherever it stands, and a stable sort does
not see which other games are there. So games can be filtered before or after they are sorted, ties
included. A descending sort reads the games from the end: it is the mirror image of the ascending
sort of the reversed games, not of the games themselves, as ties keep their places.
-/

namespace GameShelf

theorem on_of_isQueryable {column : Column} (h : column.isQueryable = true)
    (direction : Direction) : SortOrder.on column direction = .ok ⟨column, direction⟩ := by
  obtain ⟨kind, hkind⟩ := Option.isSome_iff_exists.1 h
  rw [SortOrder.on, show Schema.kind? column = some kind from hkind]

theorem sortGames_of_isQueryable {column : Column} (h : column.isQueryable = true)
    (direction : Direction) (games : List Game) :
    sortGames column direction games = .ok (SortOrder.sort ⟨column, direction⟩ games) := by
  rw [sortGames, sortOn, on_of_isQueryable h]
  rfl

/-- Filtering sorted games and sorting filtered games yield the same list. The descending sort of
games is the ascending sort of the reversed games, reversed. -/
theorem filterGames_sortGames_comm {expression : String} {query : Query Column} {column : Column}
    (hcompile : (compile expression).result = .ok query) (hcolumn : column.isQueryable = true)
    (games : List Game) :
    (∀ direction, ∃ view,
      (sortGames column direction games).bind (filterGames expression) = .ok view ∧
      (filterGames expression games).bind (sortGames column direction) = .ok view) ∧
    ∃ mirrored, sortGames column .ascending games.reverse = .ok mirrored ∧
      sortGames column .descending games = .ok mirrored.reverse := by
  constructor
  · intro direction
    refine ⟨query.filter (SortOrder.sort ⟨column, direction⟩ games), ?_, ?_⟩
    · rw [sortGames_of_isQueryable hcolumn]
      exact filterGames_of_ok hcompile _
    · calc
        (filterGames expression games).bind (sortGames column direction) =
            sortGames column direction (query.filter games) := by
          rw [filterGames_of_ok hcompile]
          rfl
        _ = .ok (SortOrder.sort ⟨column, direction⟩ (query.filter games)) :=
          sortGames_of_isQueryable hcolumn direction _
        _ = .ok (query.filter (SortOrder.sort ⟨column, direction⟩ games)) :=
          congrArg Except.ok (SortOrder.sort_filter query.accepts games)
  · refine ⟨_, sortGames_of_isQueryable hcolumn .ascending games.reverse, ?_⟩
    rw [sortGames_of_isQueryable hcolumn, SortOrder.sort_descending]

/-- Of games that tie on their rating the given order stays, in both directions; a zero of either
sign and a NaN have their places. -/
theorem filterGames_sortGames_comm_ties :
    let go : Game := Game.named "Go"
    let chess : Game := { Game.named "Chess" with rating := ⟨0x7FF8000000000000⟩ }
    let risk : Game := { Game.named "Risk" with rating := ⟨0x8000000000000000⟩ }
    let games := [Game.named "GO", chess, risk, go]
    (compile "name != risk, rating != 2" : Compilation Column).result = .ok
        ⟨[⟨.name, .ne, .text "risk"⟩, ⟨.rating, .ne, .number (.float ⟨0x4000000000000000⟩)⟩]⟩ ∧
      Column.rating.isQueryable = true ∧
      (sortGames .rating .descending games).bind (filterGames "name != risk, rating != 2") =
        .ok [chess, Game.named "GO", go] ∧
      (filterGames "name != risk, rating != 2" games).bind (sortGames .rating .descending) =
        .ok [chess, Game.named "GO", go] ∧
      sortGames .rating .ascending games.reverse = .ok [risk, go, Game.named "GO", chess] ∧
      sortGames .rating .descending games = .ok [chess, Game.named "GO", go, risk] := by
  intro go chess risk games
  have hcompile : (compile "name != risk, rating != 2" : Compilation Column).result = .ok
      ⟨[⟨.name, .ne, .text "risk"⟩, ⟨.rating, .ne, .number (.float ⟨0x4000000000000000⟩)⟩]⟩ := by
    decide +kernel
  obtain ⟨hcomm, mirrored, hmirrored, hdescending⟩ :=
    filterGames_sortGames_comm hcompile (show Column.rating.isQueryable = true from rfl) games
  obtain ⟨view, hsorted, hfiltered⟩ := hcomm .descending
  have hview : (sortGames .rating .descending games).bind
      (filterGames "name != risk, rating != 2") = .ok [chess, Game.named "GO", go] := by
    decide +kernel
  have hascending : sortGames .rating .ascending games.reverse =
      .ok [risk, go, Game.named "GO", chess] := by
    decide +kernel
  obtain rfl := Except.ok.inj (hsorted.symm.trans hview)
  obtain rfl := Except.ok.inj (hmirrored.symm.trans hascending)
  exact ⟨hcompile, rfl, hsorted, hfiltered, hmirrored, hdescending⟩

end GameShelf
