import GameShelf.Proofs.Game.FilterSort
import GameShelf.Proofs.Query.Printing

/-!
# Sorted games parted by a number

Games are sorted by an order in which every number has a place, and filtered by the order of values,
in which the two zeros are equal. The two orders agree well enough for this: among games that are
sorted on a column without a NaN, those on one side of a number come first, then those that are
equal to it, and then those on the other side. So each comparison with the number selects a part of
the list in one piece.
-/

namespace GameShelf

/-! ## Lists in three parts -/

section Parts

variable {α : Type} {xs : List α}

/-- A condition that passes from each element to all before it selects the first part of a list. -/
theorem filter_append_filter_not {p : α → Bool}
    (h : xs.Pairwise fun a b ↦ p b = true → p a = true) :
    xs.filter p ++ xs.filter (fun a ↦ !p a) = xs := by
  induction xs with
  | nil => rfl
  | cons x xs ih =>
    obtain ⟨hx, hxs⟩ := List.pairwise_cons.1 h
    cases hp : p x with
    | true => simp [hp, ih hxs]
    | false =>
      have hnone : ∀ y ∈ x :: xs, p y = false := by
        intro y hy
        rcases List.mem_cons.1 hy with rfl | hy
        · exact hp
        · apply Bool.eq_false_iff.2
          intro hpy
          rw [hx y hy hpy] at hp
          exact absurd hp (by decide)
      have hnil : (x :: xs).filter p = [] := by
        apply List.filter_eq_nil_iff.2
        intro y hy
        rw [hnone y hy]
        decide
      rw [hnil, List.nil_append]
      apply List.filter_eq_self.2
      intro y hy
      rw [hnone y hy]
      rfl

/-- What is selected from a list falls into two parts where a condition ends. -/
theorem filter_eq_append {p q left right : α → Bool}
    (h : xs.Pairwise fun a b ↦ p b = true → p a = true) (hleft : ∀ a, (p a && q a) = left a)
    (hright : ∀ a, (!p a && q a) = right a) :
    xs.filter q = xs.filter left ++ xs.filter right := by
  calc
    xs.filter q = (xs.filter q).filter p ++ (xs.filter q).filter (fun a ↦ !p a) :=
      (filter_append_filter_not (h.filter q)).symm
    _ = xs.filter left ++ xs.filter right := by
      rw [List.filter_filter, List.filter_filter, funext hleft, funext hright]

/-- A list falls into three parts, and each operator selects those parts of which it holds. -/
structure Parted (xs : List α) (select : Operator → List α) (first block last : List α) :
    Prop where
  eq_append : xs = first ++ block ++ last
  lt : select .lt = first
  le : select .le = first ++ block
  eq : select .eq = block
  ge : select .ge = block ++ last
  gt : select .gt = last

/-- Elements whose sides never go back are parted by them. -/
theorem exists_parted (xs : List α) (side : α → Ordering)
    (h : ∀ op ∈ [Operator.lt, .le],
      xs.Pairwise fun a b ↦ op.holds (side b) = true → op.holds (side a) = true) :
    ∃ first block last,
      Parted xs (fun op ↦ xs.filter fun a ↦ op.holds (side a)) first block last := by
  let select (op : Operator) : List α := xs.filter fun a ↦ op.holds (side a)
  have hlt := h .lt List.mem_cons_self
  have hle := h .le (List.mem_cons_of_mem _ List.mem_cons_self)
  have hall : xs.filter (fun _ ↦ true) = select .lt ++ select .ge :=
    filter_eq_append hlt (fun a ↦ by cases side a <;> rfl) fun a ↦ by cases side a <;> rfl
  have hlower : select .le = select .lt ++ select .eq :=
    filter_eq_append hlt (fun a ↦ by cases side a <;> rfl) fun a ↦ by cases side a <;> rfl
  have hupper : select .ge = select .eq ++ select .gt :=
    filter_eq_append hle (fun a ↦ by cases side a <;> rfl) fun a ↦ by cases side a <;> rfl
  rw [hupper, List.filter_true, ← List.append_assoc] at hall
  exact ⟨select .lt, select .eq, select .gt, hall, rfl, hlower, rfl, hupper, rfl⟩

end Parts

/-! ## Directions -/

/-- The operator that compares upwards what a given one compares in a direction. -/
def Direction.turn : Direction → Operator → Operator
  | descending, .ge => .le
  | descending, .le => .ge
  | descending, .gt => .lt
  | descending, .lt => .gt
  | _, op => op

namespace Operator

theorem holds_turn (direction : Direction) (op : Operator) (o : Ordering) :
    (direction.turn op).holds o = op.holds (direction.apply o) := by
  cases direction <;> cases op <;> cases o <;> rfl

theorem isNumeric_turn (direction : Direction) (op : Operator) :
    (direction.turn op).isNumeric = op.isNumeric := by
  cases direction <;> cases op <;> rfl

theorem holds_le (o : Ordering) : le.holds o = o.isLE := by
  cases o <;> rfl

/-- What is below a bound has below it all that does not come after. -/
theorem holds_of_isLE {α : Type} (cmp : α → α → Ordering) [Std.TransCmp cmp] {op : Operator}
    (hop : op ∈ [lt, le]) {a b bound : α} (hab : (cmp a b).isLE = true)
    (h : op.holds (cmp b bound) = true) : op.holds (cmp a bound) = true := by
  rcases List.mem_cons.1 hop with rfl | hop
  · exact beq_iff_eq.2 (Std.TransCmp.lt_of_isLE_of_lt hab (beq_iff_eq.1 h))
  · obtain rfl := List.mem_singleton.1 hop
    rw [holds_le] at h ⊢
    exact Std.TransCmp.isLE_trans hab h

end Operator

/-- What grows along the ascending order of a column follows the order in either direction. -/
theorem SortOrder.isLE_apply_compare_of_ascending {column : Column} {measure : Game → Int}
    (hmeasure : ∀ a b : Game, (compare ⟨column, .ascending⟩ a b).isLE = true →
      measure a ≤ measure b)
    {direction : Direction} {a b : Game}
    (h : (compare ⟨column, direction⟩ a b).isLE = true) :
    (direction.apply (Ord.compare (measure a) (measure b))).isLE = true := by
  cases direction with
  | ascending => exact Std.isLE_compare.2 (hmeasure a b h)
  | descending =>
    rw [compare_descending] at h
    have hswap : (Ord.compare (measure a) (measure b)).swap = Ord.compare (measure b) (measure a) :=
      Std.OrientedCmp.eq_swap.symm
    rw [Direction.apply, hswap]
    exact Std.isLE_compare.2 (hmeasure b a h)

/-! ## Games beside a number -/

/-- What games are compared by on a column of numbers. -/
def Column.scaled (column : Column) (game : Game) : Int :=
  match Record.value game column with
  | .number n => n.scaled
  | _ => 0

section Games

variable {column : Column} {kind : Kind} {literal : String} {n : Number}
  (hkind : column.kind? = some kind) (hliteral : Literal.ofText? kind literal = some (.number n))

include hkind hliteral

theorem exists_number_of_literal (game : Game) :
    ∃ m, Record.value game column = .number m ∧ m.kind = n.kind := by
  have htext : kind ≠ .text := by
    rintro rfl
    cases hliteral
  obtain ⟨m, hm, hmkind⟩ := Column.exists_number hkind htext game
  exact ⟨m, hm, hmkind.trans (Literal.kind_of_ofText? hliteral).symm⟩

/-- A clause compares what a game is measured by with the literal. -/
theorem accepts_eq_holds {game : Game}
    (hnan : ∀ x, Record.value game column = .number (.float x) → x.isNaN = false)
    (op : Operator) :
    Clause.accepts ⟨column, op, .number n⟩ game =
      op.holds (compare (column.scaled game) n.scaled) := by
  obtain ⟨m, hm, hmkind⟩ := exists_number_of_literal hkind hliteral game
  have hmnan : m.isNaN = false := by
    cases m with
    | integer => rfl
    | float x => exact hnan x hm
  have hcompare := Number.compare?_eq_some hmkind hmnan (Literal.isNaN_of_ofText? hliteral)
  rw [Clause.accepts, hm, Column.scaled, hm]
  change op.matchesNumber m n = op.holds (compare m.scaled n.scaled)
  rw [Operator.matchesNumber, hcompare]

theorem filterGames_clauseText {games : List Game}
    (hnan : ∀ game ∈ games, ∀ x, Record.value game column = .number (.float x) → x.isNaN = false)
    {op : Operator} (hop : op.isNumeric = true) :
    filterGames (clauseText column op literal) games =
      .ok (games.filter fun game ↦ op.holds (compare (column.scaled game) n.scaled)) := by
  have happlies : op.appliesTo kind = true := by
    cases kind with
    | text => cases hliteral
    | integer | float => exact hop
  have hwrites := Clause.Writes.of_number hkind happlies hliteral
  rw [filterGames_of_ok (congrArg Compilation.result hwrites.compile_clauseText)]
  congr 1
  apply List.filter_congr
  intro game hgame
  rw [Query.accepts, List.all_cons, List.all_nil, Bool.and_true,
    accepts_eq_holds hkind hliteral (hnan game hgame)]

/-- The order for sorting never goes against what games are measured by. -/
theorem isLE_compare_scaled {direction : Direction} {a b : Game}
    (h : (SortOrder.compare ⟨column, direction⟩ a b).isLE = true) :
    (direction.apply (compare (column.scaled a) (column.scaled b))).isLE = true := by
  apply SortOrder.isLE_apply_compare_of_ascending _ h
  intro a b hab
  obtain ⟨m, hm, hmkind⟩ := exists_number_of_literal hkind hliteral a
  obtain ⟨m', hm', hmkind'⟩ := exists_number_of_literal hkind hliteral b
  rw [SortOrder.compare, hm, hm'] at hab
  rw [Column.scaled, hm, Column.scaled, hm']
  exact Number.scaled_le_of_totalCompare (hmkind.trans hmkind'.symm) hab

/-- Games that are sorted on a column of numbers, of which none is a NaN, fall into three parts
around a literal. Ascending, these are the games that are less than it, those that are equal to it
and those that are greater; descending, they stand the other way round. Each comparison of the
column with the literal selects those parts, in their order, of which it holds. -/
theorem filterGames_sortGames_parted {games : List Game}
    (hnan : ∀ game ∈ games, ∀ x, Record.value game column = .number (.float x) →
      x.isNaN = false) (direction : Direction) :
    ∃ first block last : List Game,
      sortGames column direction games = .ok (first ++ block ++ last) ∧
      filterGames (clauseText column (direction.turn .lt) literal) (first ++ block ++ last) =
        .ok first ∧
      filterGames (clauseText column (direction.turn .le) literal) (first ++ block ++ last) =
        .ok (first ++ block) ∧
      filterGames (clauseText column .eq literal) (first ++ block ++ last) = .ok block ∧
      filterGames (clauseText column (direction.turn .ge) literal) (first ++ block ++ last) =
        .ok (block ++ last) ∧
      filterGames (clauseText column (direction.turn .gt) literal) (first ++ block ++ last) =
        .ok last := by
  let order : SortOrder Column := ⟨column, direction⟩
  let cmp (a b : Int) : Ordering := direction.apply (compare a b)
  obtain ⟨first, block, last, hparted⟩ :=
    exists_parted (order.sort games) (fun game ↦ cmp (column.scaled game) n.scaled) fun op hop ↦
      (order.ordered_sort games).imp fun hab ↦
        Operator.holds_of_isLE cmp hop (isLE_compare_scaled hkind hliteral hab)
  have hselect {op : Operator} (hop : op.isNumeric = true) {selected : List Game}
      (h : (order.sort games).filter (fun game ↦ op.holds (cmp (column.scaled game) n.scaled)) =
        selected) :
      filterGames (clauseText column (direction.turn op) literal) (first ++ block ++ last) =
        .ok selected := by
    rw [← hparted.eq_append, ← h, filterGames_clauseText hkind hliteral]
    · simp only [Operator.holds_turn, cmp]
    · intro game hgame
      exact hnan game ((order.sort_perm games).mem_iff.1 hgame)
    · rw [Operator.isNumeric_turn, hop]
  have hqueryable : column.isQueryable = true := by
    rw [Column.isQueryable, hkind]
    rfl
  have heq : direction.turn .eq = .eq := by
    cases direction <;> rfl
  refine ⟨first, block, last, ?_, hselect rfl hparted.lt, hselect rfl hparted.le, ?_,
    hselect rfl hparted.ge, hselect rfl hparted.gt⟩
  · rw [sortGames_of_isQueryable hqueryable, ← hparted.eq_append]
  · rw [← heq]
    exact hselect rfl hparted.eq

end Games

/-- The two zeros are parted by the sort, in either direction, and are both equal to a literal. -/
theorem filterGames_sortGames_parted_zeros :
    let rated (bits : UInt64) : Game := { Game.named "Go" with rating := ⟨bits⟩ }
    let negativeZero := rated 0x8000000000000000
    let one := rated 0x3FF0000000000000
    let infinite := rated 0xFFF0000000000000
    let games := [one, rated 0, infinite, negativeZero]
    let sorted := [one, rated 0, negativeZero, infinite]
    Column.rating.kind? = some .float ∧
      Literal.ofText? .float "-.0" = some (.number (.float ⟨0x8000000000000000⟩)) ∧
      (∀ game ∈ games, ∀ x, Record.value game Column.rating = .number (.float x) →
        x.isNaN = false) ∧
      sortGames .rating .descending games = .ok sorted ∧
      filterGames "rating > -.0" sorted = .ok [one] ∧
      filterGames "rating == -.0" sorted = .ok [rated 0, negativeZero] ∧
      filterGames "rating <= -.0" sorted = .ok [rated 0, negativeZero, infinite] := by
  intro rated negativeZero one infinite games sorted
  have hliteral : Literal.ofText? .float "-.0" =
      some (.number (.float ⟨0x8000000000000000⟩)) := by
    decide +kernel
  have hnan : ∀ game ∈ games, ∀ x, Record.value game Column.rating = .number (.float x) →
      x.isNaN = false := by
    have hall : (games.all fun game ↦ !game.rating.isNaN) = true := by decide +kernel
    intro game hgame x hx
    cases hx
    exact Bool.not_eq_eq_eq_not.1 (List.all_eq_true.1 hall game hgame)
  obtain ⟨first, block, last, hsort, hgt, -, heq, hle, -⟩ :=
    filterGames_sortGames_parted (show Column.rating.kind? = some .float from rfl) hliteral hnan
      .descending
  have hsorted : sortGames .rating .descending games = .ok sorted := by decide +kernel
  have hwhole : first ++ block ++ last = sorted := Except.ok.inj (hsort.symm.trans hsorted)
  rw [hwhole] at hgt heq hle
  obtain rfl : first = [one] := Except.ok.inj (hgt.symm.trans (by decide +kernel))
  obtain rfl : block = [rated 0, negativeZero] :=
    Except.ok.inj (heq.symm.trans (by decide +kernel))
  obtain rfl : last = [infinite] := List.append_cancel_left hwhole
  exact ⟨rfl, hliteral, hnan, hsorted, hgt, heq, hle⟩

end GameShelf
