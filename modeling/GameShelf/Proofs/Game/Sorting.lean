import GameShelf.Proofs.Game.FilterSort

/-!
# Sorted games

Whatever the games hold, the comparison on a column is a total preorder, so sorting has an order to
establish. A sort looks at nothing but the values of the field: records that carry their places in
the list are sorted as the records alone are. The places tell what becomes of each single record,
and of several equal ones as well: every place is taken once, no record stands after one that it is
less than, and the places of records that are equal on the field still increase.
-/

namespace GameShelf

namespace SortOrder

variable {T U F : Type} [Record T F] [Record U F] (order : SortOrder F)

/-! ## Records that are sorted alike -/

section Map

variable {f : T → U} (hf : ∀ r, Record.value (f r) order.field = Record.value r order.field)

include hf

theorem compare_map (r s : T) : order.compare (f r) (f s) = order.compare r s := by
  rw [compare, compare, hf, hf]

theorem map_place (r : T) (placed : List T) :
    (order.place r placed).map f = order.place (f r) (placed.map f) := by
  induction placed with
  | nil => rfl
  | cons s placed ih =>
    rw [place, List.map_cons, place, order.compare_map hf]
    split
    · rw [List.map_cons, ih]
    · rfl

theorem map_foldl_place (rs placed : List T) :
    (rs.foldl (fun placed r ↦ order.place r placed) placed).map f =
      (rs.map f).foldl (fun placed r ↦ order.place r placed) (placed.map f) := by
  induction rs generalizing placed with
  | nil => rfl
  | cons r rs ih => rw [List.foldl_cons, ih, map_place order hf, List.map_cons, List.foldl_cons]

/-- Sorting looks at nothing but the values of the field. -/
theorem map_sort (rs : List T) : (order.sort rs).map f = order.sort (rs.map f) := by
  rw [sort, sort, List.map_reverse, map_foldl_place order hf]
  rfl

end Map

/-! ## Places -/

variable {order}

/-- What holds along each class of equal records holds between any two that are equal. -/
theorem pairwise_of_filter_ties [Std.TransCmp (order.compare (T := T))] {R : T → T → Prop}
    {rs : List T} (h : ∀ r, (rs.filter (order.ties r)).Pairwise R) :
    rs.Pairwise fun a b ↦ order.compare a b = .eq → R a b := by
  induction rs with
  | nil => exact .nil
  | cons r rs ih =>
    have hclass := h r
    rw [List.filter_cons_of_pos (ties_self r)] at hclass
    apply List.pairwise_cons.2
    constructor
    · intro s hs heq
      apply (List.pairwise_cons.1 hclass).1
      exact List.mem_filter.2 ⟨hs, order.ties_iff.2 heq⟩
    · apply ih
      intro s
      exact (h s).sublist ((List.sublist_cons_self r rs).filter _)

/-- Equal records are related after a stable sort as they were before it. -/
theorem StableSort.pairwise_ties [Std.TransCmp (order.compare (T := T))] {R : T → T → Prop}
    {rs sorted : List T} (h : order.StableSort rs sorted) (hrs : rs.Pairwise R) :
    sorted.Pairwise fun a b ↦ order.compare a b = .eq → R a b := by
  apply pairwise_of_filter_ties
  intro r
  rw [h.filter_ties]
  exact hrs.filter _

/-- A record with its place in a list holds what the record holds. -/
local instance : Record (T × Nat) F where
  value numbered field := Record.value numbered.1 field

theorem pairwise_lt_zipIdx (rs : List T) : rs.zipIdx.Pairwise fun a b ↦ a.2 < b.2 := by
  have hplaces : (rs.zipIdx.map Prod.snd).Pairwise (· < ·) := by
    rw [List.zipIdx_map_snd]
    exact List.pairwise_lt_range'
  exact List.pairwise_map.1 hplaces

/-- The places from which a sort takes the records, each next to its record. -/
theorem exists_placed_sort [Std.TransCmp (order.compare (T := T))] (rs : List T) :
    ∃ placed : List (T × Nat), placed.Perm rs.zipIdx ∧ placed.map Prod.fst = order.sort rs ∧
      (placed.Pairwise fun a b ↦ (order.compare a.1 b.1).isLE) ∧
      placed.Pairwise fun a b ↦ order.compare a.1 b.1 = .eq → a.2 < b.2 := by
  have htrans : Std.TransCmp (order.compare (T := T × Nat)) :=
    transCmp_on (order.compare (T := T)) Prod.fst
  refine ⟨order.sort rs.zipIdx, order.sort_perm _, ?_, order.ordered_sort _, ?_⟩
  · rw [order.map_sort (f := Prod.fst) fun _ ↦ rfl, List.zipIdx_map_fst]
  · exact (stableSort_sort rs.zipIdx).pairwise_ties (pairwise_lt_zipIdx rs)

end SortOrder

/-- The comparison of games on a column that can be queried is a total preorder, in both
directions, whatever the games hold. Sorting yields all games, each taken from a place of its own:
no game is less than one that stands before it, and games that are equal on the column are taken
from increasing places. -/
theorem sortGames_stable {column : Column} (h : column.isQueryable = true)
    (direction : Direction) :
    ∃ order : SortOrder Column, SortOrder.on column direction = .ok order ∧
      (∀ a : Game, order.compare a a = .eq) ∧
      (∀ a b : Game, order.compare a b = (order.compare b a).swap) ∧
      (∀ a b c : Game, order.compare a b ≠ .gt → order.compare b c ≠ .gt →
        order.compare a c ≠ .gt) ∧
      ∀ games : List Game, ∃ placed : List (Game × Nat),
        sortGames column direction games = .ok (placed.map Prod.fst) ∧
        placed.Perm games.zipIdx ∧
        (placed.Pairwise fun a b ↦ order.compare b.1 a.1 ≠ .lt) ∧
        placed.Pairwise fun a b ↦ order.compare a.1 b.1 = .eq → a.2 < b.2 := by
  let order : SortOrder Column := ⟨column, direction⟩
  refine ⟨order, on_of_isQueryable h direction, fun _ ↦ Std.ReflCmp.compare_self,
    fun _ _ ↦ Std.OrientedCmp.eq_swap, ?_, ?_⟩
  · intro a b c hab hbc
    apply Ordering.isLE_iff_ne_gt.1
    exact Std.TransCmp.isLE_trans (Ordering.isLE_iff_ne_gt.2 hab) (Ordering.isLE_iff_ne_gt.2 hbc)
  · intro games
    obtain ⟨placed, hperm, hsort, hordered, hstable⟩ := SortOrder.exists_placed_sort games
    refine ⟨placed, ?_, hperm, ?_, hstable⟩
    · rw [sortGames_of_isQueryable h, hsort]
    · apply hordered.imp
      intro a b hab hlt
      rw [Std.OrientedCmp.gt_of_lt hlt] at hab
      exact absurd hab (by decide)

/-- Two games of one name keep their places in both directions, and so do two equal records; names
in another letter case are equal on the column. -/
theorem sortGames_stable_names :
    let go : Game := { Game.named "go" with rating := ⟨0xFFF8000000000000⟩ }
    let games := [Game.named "GO", Game.named "Risk", go, Game.named "GO", Game.named "Édifice"]
    Column.name.isQueryable = true ∧
      ∃ placed : List (Game × Nat),
        placed.map Prod.fst =
          [Game.named "Édifice", Game.named "Risk", Game.named "GO", go, Game.named "GO"] ∧
        placed.Perm games.zipIdx ∧
        placed.Pairwise fun a b ↦
          SortOrder.compare (⟨.name, .descending⟩ : SortOrder Column) a.1 b.1 = .eq → a.2 < b.2 := by
  intro go games
  refine ⟨rfl, ?_⟩
  obtain ⟨order, horder, -, -, -, hsort⟩ :=
    sortGames_stable (show Column.name.isQueryable = true from rfl) .descending
  obtain rfl : ⟨.name, .descending⟩ = order := Except.ok.inj horder
  obtain ⟨placed, hplaced, hperm, -, hstable⟩ := hsort games
  have hsorted : sortGames .name .descending games = .ok
      [Game.named "Édifice", Game.named "Risk", Game.named "GO", go, Game.named "GO"] := by
    decide +kernel
  exact ⟨placed, Except.ok.inj (hplaced.symm.trans hsorted), hperm, hstable⟩

end GameShelf
