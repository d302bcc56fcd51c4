import GameShelf.Query.Order

/-!
# Sorted records

Where the comparison on a field is a total preorder, sorting yields an ordered list. The invariant
of the sort is that the records placed so far are ordered from last to first.
-/

namespace GameShelf

/-- A total preorder read in a direction is one too. -/
instance {T : Type} (direction : Direction) (cmp : T → T → Ordering) [Std.TransCmp cmp] :
    Std.TransCmp fun a b ↦ direction.apply (cmp a b) where
  eq_swap {a b} := by
    have hswap : cmp a b = (cmp b a).swap := Std.OrientedCmp.eq_swap
    cases direction with
    | ascending => exact hswap
    | descending => exact congrArg Ordering.swap hswap
  isLE_trans {a b c} hab hbc := by
    cases direction with
    | ascending =>
      change (cmp a b).isLE = true at hab
      change (cmp b c).isLE = true at hbc
      change (cmp a c).isLE = true
      exact Std.TransCmp.isLE_trans hab hbc
    | descending =>
      have hswap (x y : T) : Direction.descending.apply (cmp x y) = cmp y x :=
        Std.OrientedCmp.eq_swap.symm
      rw [hswap] at hab hbc ⊢
      exact Std.TransCmp.isLE_trans hbc hab

namespace SortOrder

variable {T F : Type} [Record T F] (order : SortOrder F)

/-- Every record comes before those after it, or is equal to them on the field. -/
def Ordered (rs : List T) : Prop :=
  rs.Pairwise fun a b ↦ (order.compare a b).isLE

variable [Std.TransCmp (order.compare (T := T))]

/-- Placing a record keeps the placed records ordered from last to first. -/
theorem pairwise_place {r : T} {placed : List T}
    (h : placed.Pairwise fun a b ↦ (order.compare b a).isLE) :
    (order.place r placed).Pairwise fun a b ↦ (order.compare b a).isLE := by
  induction placed with
  | nil => exact List.pairwise_singleton _ _
  | cons s rest ih =>
    obtain ⟨hs, hrest⟩ := List.pairwise_cons.1 h
    rw [place]
    split
    · next hlt =>
      have hbefore : ∀ x ∈ order.place r rest, (order.compare x s).isLE := by
        intro x hx
        rcases List.mem_cons.1 ((order.place_perm r rest).mem_iff.1 hx) with rfl | hx
        · rw [hlt]
          rfl
        · exact hs x hx
      exact List.pairwise_cons.2 ⟨hbefore, ih hrest⟩
    · next hnlt =>
      have hsr : (order.compare s r).isLE :=
        Std.OrientedCmp.isLE_of_isGE (Ordering.isGE_iff_ne_lt.2 hnlt)
      have hbefore : ∀ x ∈ s :: rest, (order.compare x r).isLE := by
        intro x hx
        rcases List.mem_cons.1 hx with rfl | hx
        · exact hsr
        · exact Std.TransCmp.isLE_trans (hs x hx) hsr
      exact List.pairwise_cons.2 ⟨hbefore, h⟩

theorem pairwise_foldl_place (rs : List T) {placed : List T}
    (h : placed.Pairwise fun a b ↦ (order.compare b a).isLE) :
    (rs.foldl (fun placed r ↦ order.place r placed) placed).Pairwise
      fun a b ↦ (order.compare b a).isLE := by
  induction rs generalizing placed with
  | nil => exact h
  | cons r rs ih => exact ih (order.pairwise_place h)

/-- Sorting orders the records. -/
theorem ordered_sort (rs : List T) : order.Ordered (order.sort rs) := by
  apply List.pairwise_reverse.2
  exact order.pairwise_foldl_place rs List.Pairwise.nil

end SortOrder

end GameShelf
