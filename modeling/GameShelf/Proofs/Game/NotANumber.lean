import GameShelf.Proofs.Game.SortedParts

/-!
# Sorted games and NaNs

A game may hold a NaN in a column of reals. The order for sorting places it beyond all numbers, and
its sign bit decides on which side. So a sorted list of games has its NaNs at both ends: an
ascending sort puts those with the sign bit first and the others last, and a descending sort puts
them the other way round. Only a NaN without the sign bit sorts after every number.
-/

namespace GameShelf

namespace Number

/-- A NaN is below every number or above every number. -/
theorem totalCompare_of_isNaN {x : Binary64} {n : Number} (hx : x.isNaN = true)
    (hn : n.isNaN = false) :
    (float x).totalCompare n = if x.negative then .lt else .gt := by
  have hnumber : n.toBinary64.isNaN = false := n.isNaN_toBinary64.trans hn
  have hclass : x.nanClass = if x.negative then -1 else 1 := by
    rw [Binary64.nanClass, hx, if_pos rfl]
  have hzero : n.toBinary64.nanClass = 0 := by
    rw [Binary64.nanClass, hnumber]
    rfl
  have hne : x.nanClass ≠ n.toBinary64.nanClass := by
    rw [hclass, hzero]
    split <;> decide
  have htotal : (float x).totalCompare n = x.totalCompare n.toBinary64 := by
    cases n <;> rfl
  rw [htotal, Binary64.totalCompare_of_nanClass_ne hne, hclass, hzero]
  split <;> rfl

end Number

namespace Column

/-- Whether a game holds a NaN with a given sign bit in a column. -/
def holdsNaN (column : Column) (negative : Bool) (game : Game) : Bool :=
  match Record.value game column with
  | .number (.float x) => x.isNaN && x.negative == negative
  | _ => false

/-- The class of what a game holds in a column of reals. -/
def nanClass (column : Column) (game : Game) : Int :=
  match Record.value game column with
  | .number (.float x) => x.nanClass
  | _ => 0

variable {column : Column} {game : Game}

theorem holdsNaN_eq (negative : Bool) :
    column.holdsNaN negative game =
      (compare (column.nanClass game) 0 == if negative then .lt else .gt) := by
  unfold holdsNaN nanClass
  split
  · next x _ =>
    unfold Binary64.nanClass
    cases x.isNaN <;> cases x.negative <;> cases negative <;> rfl
  · cases negative <;> rfl

theorem holds_lt_nanClass (direction : Direction) :
    Operator.lt.holds (direction.apply (compare (column.nanClass game) 0)) =
      column.holdsNaN (direction == .ascending) game := by
  rw [holdsNaN_eq]
  cases direction <;> cases compare (column.nanClass game) 0 <;> rfl

theorem holds_gt_nanClass (direction : Direction) :
    Operator.gt.holds (direction.apply (compare (column.nanClass game) 0)) =
      column.holdsNaN (direction == .descending) game := by
  rw [holdsNaN_eq]
  cases direction <;> cases compare (column.nanClass game) 0 <;> rfl

theorem holdsNaN_of_holds_eq {direction : Direction}
    (h : Operator.eq.holds (direction.apply (compare (column.nanClass game) 0)) = true)
    (negative : Bool) : column.holdsNaN negative game = false := by
  rw [holdsNaN_eq]
  revert h
  cases direction <;> cases negative <;> cases compare (column.nanClass game) 0 <;> decide

end Column

section Games

variable {column : Column} (hkind : column.kind? = some .float)

include hkind

theorem exists_real (game : Game) :
    ∃ x, Record.value game column = .number (.float x) := by
  obtain ⟨n, hn, hfloat⟩ := Column.exists_number hkind (by decide) game
  cases n with
  | integer m => cases hfloat
  | float x => exact ⟨x, hn⟩

/-- The order for sorting never goes against the classes. -/
theorem isLE_compare_nanClass {direction : Direction} {a b : Game}
    (h : (SortOrder.compare ⟨column, direction⟩ a b).isLE = true) :
    (direction.apply (compare (column.nanClass a) (column.nanClass b))).isLE = true := by
  apply SortOrder.isLE_apply_compare_of_ascending _ h
  intro a b hab
  obtain ⟨x, hx⟩ := exists_real hkind a
  obtain ⟨y, hy⟩ := exists_real hkind b
  rw [SortOrder.compare, hx, hy] at hab
  rw [Column.nanClass, hx, Column.nanClass, hy]
  exact Binary64.nanClass_le_of_rank_le (Std.isLE_compare.1 hab)

/-- Games that are sorted on a column of reals have the NaNs of one sign before the numbers, and
those of the other sign after them. -/
theorem sortGames_parted_nans (direction : Direction) (games : List Game) :
    ∃ first numbers last : List Game,
      sortGames column direction games = .ok (first ++ numbers ++ last) ∧
      (∀ game ∈ first, column.holdsNaN (direction == .ascending) game = true) ∧
      (∀ game ∈ numbers, ∀ negative, column.holdsNaN negative game = false) ∧
      ∀ game ∈ last, column.holdsNaN (direction == .descending) game = true := by
  let order : SortOrder Column := ⟨column, direction⟩
  let cmp (a b : Int) : Ordering := direction.apply (compare a b)
  obtain ⟨first, numbers, last, hparted⟩ :=
    exists_parted (order.sort games) (fun game ↦ cmp (column.nanClass game) 0) fun op hop ↦
      (order.ordered_sort games).imp fun hab ↦
        Operator.holds_of_isLE cmp hop (isLE_compare_nanClass hkind hab)
  refine ⟨first, numbers, last, ?_, ?_, ?_, ?_⟩
  · rw [sortGames_of_isQueryable (Option.isSome_iff_exists.2 ⟨_, hkind⟩), ← hparted.eq_append]
  · intro game hgame
    rw [← hparted.lt] at hgame
    rw [← Column.holds_lt_nanClass]
    exact (List.mem_filter.1 hgame).2
  · intro game hgame
    rw [← hparted.eq] at hgame
    exact Column.holdsNaN_of_holds_eq (List.mem_filter.1 hgame).2
  · intro game hgame
    rw [← hparted.gt] at hgame
    rw [← Column.holds_gt_nanClass]
    exact (List.mem_filter.1 hgame).2

end Games

/-- A NaN with the sign bit does not sort after every number. -/
theorem not_nans_last_sortGames :
    ¬ ∀ games sorted : List Game, sortGames .rating .ascending games = .ok sorted →
      sorted.Pairwise fun a b ↦ a.rating.isNaN = true → b.rating.isNaN = true := by
  intro h
  have hsorted := h
    [{ Game.named "Go" with rating := ⟨0xFFF8000000000000⟩ },
      { Game.named "Chess" with rating := ⟨0x3FF0000000000000⟩ }] _ rfl
  exact absurd hsorted (by decide +kernel)

end GameShelf
