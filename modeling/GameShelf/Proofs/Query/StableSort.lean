import GameShelf.Proofs.Query.Order
import Mathlib.Data.List.Basic

/-!
# Stable sorting

A stable sort keeps the records that are equal on the field in the order in which they are given.
An ordered list is determined by the order within each class of equal records, so all stable sorts
yield one list, whatever algorithm finds it. Therefore a filter may be applied before a sort or
after it, and sorting downwards is sorting the reversed records upwards and reading the result from
its end.
-/

namespace GameShelf.SortOrder

variable {T F : Type} [Record T F]

section Ties

variable (order : SortOrder F)

def ties (r s : T) : Bool :=
  order.compare r s == .eq

theorem ties_iff {r s : T} : order.ties r s = true ↔ order.compare r s = .eq :=
  beq_iff_eq

/-- What a stable sort makes of records: they are ordered, and those that are equal on the field
stand as they stood before. -/
structure StableSort (rs sorted : List T) : Prop where
  ordered : order.Ordered sorted
  filter_ties : ∀ r, sorted.filter (order.ties r) = rs.filter (order.ties r)

variable {order}

theorem StableSort.filter {rs sorted : List T} (h : order.StableSort rs sorted) (p : T → Bool) :
    order.StableSort (rs.filter p) (sorted.filter p) where
  ordered := h.ordered.filter p
  filter_ties r := by
    calc
      (sorted.filter p).filter (order.ties r) = (sorted.filter (order.ties r)).filter p :=
        List.filter_comm _ _ sorted
      _ = (rs.filter (order.ties r)).filter p := by rw [h.filter_ties]
      _ = (rs.filter p).filter (order.ties r) := List.filter_comm _ _ rs

variable [Std.TransCmp (order.compare (T := T))]

theorem ties_self (r : T) : order.ties r r = true :=
  order.ties_iff.2 Std.ReflCmp.compare_self

/-! ## Uniqueness -/

theorem mem_of_filter_ties {xs ys : List T}
    (h : ∀ r, xs.filter (order.ties r) = ys.filter (order.ties r)) {r : T} (hr : r ∈ xs) :
    r ∈ ys := by
  have hmem : r ∈ xs.filter (order.ties r) := List.mem_filter.2 ⟨hr, ties_self r⟩
  rw [h] at hmem
  exact (List.mem_filter.1 hmem).1

theorem Ordered.head_isLE {r s : T} {rs : List T} (h : order.Ordered (r :: rs))
    (hs : s ∈ r :: rs) : (order.compare r s).isLE := by
  rcases List.mem_cons.1 hs with rfl | hs
  · have hself : order.compare s s = .eq := Std.ReflCmp.compare_self
    rw [hself]
    rfl
  · exact (List.pairwise_cons.1 h).1 s hs

/-- The order within each class of equal records determines an ordered list. -/
theorem Ordered.eq_of_filter_ties {xs ys : List T} (hxs : order.Ordered xs)
    (hys : order.Ordered ys) (h : ∀ r, xs.filter (order.ties r) = ys.filter (order.ties r)) :
    xs = ys := by
  induction xs generalizing ys with
  | nil =>
    symm
    apply List.eq_nil_iff_forall_not_mem.2
    intro y hy
    exact List.not_mem_nil (mem_of_filter_ties (fun r ↦ (h r).symm) hy)
  | cons x xs ih =>
    cases ys with
    | nil => exact absurd (mem_of_filter_ties h List.mem_cons_self) List.not_mem_nil
    | cons y ys =>
      -- Each head is in the other list, so the heads are equal on the field, and each of them
      -- comes first in the class that they share.
      have hxy : (order.compare x y).isLE :=
        hxs.head_isLE (mem_of_filter_ties (fun r ↦ (h r).symm) List.mem_cons_self)
      have hyx : (order.compare y x).isLE :=
        hys.head_isLE (mem_of_filter_ties h List.mem_cons_self)
      have hties : order.ties x y = true :=
        order.ties_iff.2 (Std.OrientedCmp.isLE_antisymm hxy hyx)
      have hclass := h x
      rw [List.filter_cons_of_pos (ties_self x), List.filter_cons_of_pos hties] at hclass
      obtain rfl : x = y := List.head_eq_of_cons_eq hclass
      congr 1
      apply ih (List.pairwise_cons.1 hxs).2 (List.pairwise_cons.1 hys).2
      intro r
      have hr := h r
      rw [List.filter_cons, List.filter_cons] at hr
      split at hr
      · exact List.tail_eq_of_cons_eq hr
      · exact hr

theorem StableSort.unique {rs xs ys : List T} (hxs : order.StableSort rs xs)
    (hys : order.StableSort rs ys) : xs = ys := by
  apply hxs.ordered.eq_of_filter_ties hys.ordered
  intro r
  exact (hxs.filter_ties r).trans (hys.filter_ties r).symm

/-! ## The sort is stable -/

/-- A record passes only those that it is less than, and none of these is equal to a record that it
is equal to itself. -/
theorem filter_ties_place (r s : T) (placed : List T) :
    (order.place s placed).filter (order.ties r) = (s :: placed).filter (order.ties r) := by
  induction placed with
  | nil => rfl
  | cons t placed ih =>
    rw [place]
    split
    · next hlt =>
      rw [List.filter_cons, ih]
      cases hs : order.ties r s with
      | false => simp [List.filter_cons, hs]
      | true =>
        have hrt : order.compare r t = .lt :=
          Std.TransCmp.lt_of_eq_of_lt (order.ties_iff.1 hs) hlt
        have ht : order.ties r t = false := by
          rw [ties, hrt]
          rfl
        simp [hs, ht]
    · rfl

theorem filter_ties_foldl_place (r : T) (rs placed : List T) :
    (rs.foldl (fun placed s ↦ order.place s placed) placed).filter (order.ties r) =
      (rs.reverse ++ placed).filter (order.ties r) := by
  induction rs generalizing placed with
  | nil => rfl
  | cons s rs ih =>
    calc
      ((s :: rs).foldl (fun placed s ↦ order.place s placed) placed).filter (order.ties r) =
          (rs.reverse ++ order.place s placed).filter (order.ties r) := ih (order.place s placed)
      _ = (rs.reverse ++ s :: placed).filter (order.ties r) := by
        rw [List.filter_append, List.filter_append, filter_ties_place]
      _ = ((s :: rs).reverse ++ placed).filter (order.ties r) := by
        rw [List.reverse_cons, List.append_assoc]
        rfl

theorem stableSort_sort (rs : List T) : order.StableSort rs (order.sort rs) where
  ordered := order.ordered_sort rs
  filter_ties r := by
    rw [sort, List.filter_reverse, filter_ties_foldl_place, List.append_nil, List.filter_reverse,
      List.reverse_reverse]

/-- Sorting yields what every stable sort yields. -/
theorem sort_eq_iff {rs sorted : List T} :
    order.sort rs = sorted ↔ order.StableSort rs sorted := by
  constructor
  · rintro rfl
    exact stableSort_sort rs
  · intro h
    exact (stableSort_sort rs).unique h

/-- Merging leaves equal records as they stand, since they are in order already. -/
theorem stableSort_mergeSort (rs : List T) :
    order.StableSort rs (rs.mergeSort fun r s ↦ (order.compare r s).isLE) := by
  have htrans (a b c : T) (hab : (order.compare a b).isLE = true)
      (hbc : (order.compare b c).isLE = true) : (order.compare a c).isLE = true :=
    Std.TransCmp.isLE_trans hab hbc
  have htotal (a b : T) : ((order.compare a b).isLE || (order.compare b a).isLE) = true := by
    have hswap : order.compare b a = (order.compare a b).swap := Std.OrientedCmp.eq_swap
    rw [hswap]
    cases order.compare a b <;> rfl
  refine ⟨List.pairwise_mergeSort htrans htotal rs, ?_⟩
  intro r
  have hclass : (rs.filter (order.ties r)).Pairwise fun a b ↦ (order.compare a b).isLE = true := by
    apply List.pairwise_of_forall_mem_list
    intro a ha b hb
    have hra := order.ties_iff.1 (List.mem_filter.1 ha).2
    have hrb := order.ties_iff.1 (List.mem_filter.1 hb).2
    rw [Std.TransCmp.eq_trans (Std.OrientedCmp.eq_symm hra) hrb]
    rfl
  have hkept := (List.sublist_mergeSort htrans htotal hclass List.filter_sublist).filter
    (order.ties r)
  simp only [List.filter_filter, Bool.and_self] at hkept
  exact (hkept.eq_of_length ((List.mergeSort_perm rs _).filter _).length_eq.symm).symm

theorem sort_eq_mergeSort (rs : List T) :
    order.sort rs = rs.mergeSort fun r s ↦ (order.compare r s).isLE :=
  sort_eq_iff.2 (stableSort_mergeSort rs)

/-! ## Filters -/

/-- A filter may be applied before the sort or after it. -/
theorem sort_filter (p : T → Bool) (rs : List T) :
    order.sort (rs.filter p) = (order.sort rs).filter p :=
  sort_eq_iff.2 ((stableSort_sort rs).filter p)

end Ties

/-! ## Directions -/

variable {field : F} [∀ direction, Std.TransCmp (compare (T := T) ⟨field, direction⟩)]

theorem compare_descending (r s : T) :
    compare ⟨field, .descending⟩ r s = compare ⟨field, .ascending⟩ s r := by
  calc
    compare ⟨field, .descending⟩ r s = (compare ⟨field, .ascending⟩ r s).swap := rfl
    _ = compare ⟨field, .ascending⟩ s r := Std.OrientedCmp.eq_swap.symm

theorem ties_descending (r s : T) :
    ties ⟨field, .descending⟩ r s = ties ⟨field, .ascending⟩ r s := by
  rw [Bool.eq_iff_iff, ties_iff, ties_iff, compare_descending]
  exact Std.OrientedCmp.eq_comm

theorem StableSort.reverse {rs sorted : List T}
    (h : StableSort ⟨field, .ascending⟩ rs sorted) :
    StableSort ⟨field, .descending⟩ rs.reverse sorted.reverse where
  ordered := by
    apply List.pairwise_reverse.2
    apply h.ordered.imp
    intro r s hle
    rw [compare_descending]
    exact hle
  filter_ties r := by
    have hties : ties (T := T) ⟨field, .descending⟩ r = ties ⟨field, .ascending⟩ r := by
      funext s
      exact ties_descending r s
    rw [hties, List.filter_reverse, List.filter_reverse, h.filter_ties]

/-- Sorting downwards is sorting the reversed records upwards, read from the end. -/
theorem sort_descending (rs : List T) :
    sort ⟨field, .descending⟩ rs = (sort ⟨field, .ascending⟩ rs.reverse).reverse := by
  apply sort_eq_iff.2
  have h : StableSort ⟨field, .ascending⟩ rs.reverse (sort ⟨field, .ascending⟩ rs.reverse) :=
    stableSort_sort rs.reverse
  have hreverse := h.reverse
  rwa [List.reverse_reverse] at hreverse

end GameShelf.SortOrder
