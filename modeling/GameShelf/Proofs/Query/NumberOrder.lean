import GameShelf.Proofs.Binary64.Monotone
import GameShelf.Proofs.Query.Kind
import GameShelf.Query.Order

/-!
# The order of all numbers

The order for sorting compares whole numbers exactly, and rounds a whole number that is compared
with one of double precision. It is total and it does not depend on which of two numbers comes
first. But two whole numbers that are rounded to the same number of double precision are both equal
to that number, and not to each other: there, and nowhere else, the order is not transitive. Numbers
of one kind, as the columns of games hold them, are in a total preorder.
-/

namespace GameShelf.Number

/-- The place of a number of double precision, to which a whole number is rounded. -/
def rank (n : Number) : Int :=
  n.toBinary64.rank

variable {a b c : Number}

/-- Two numbers are whole, or they are compared by their places. -/
theorem whole_or_totalCompare_eq (a b : Number) :
    (∃ m n, a = .integer m ∧ b = .integer n) ∨
      a.totalCompare b = compare a.rank b.rank ∧ b.totalCompare a = compare b.rank a.rank := by
  cases a with
  | float x => exact .inr ⟨rfl, by cases b <;> rfl⟩
  | integer m =>
    cases b with
    | float y => exact .inr ⟨rfl, rfl⟩
    | integer n => exact .inl ⟨m, n, rfl, rfl⟩

instance : Std.OrientedCmp totalCompare where
  eq_swap {a b} := by
    rcases whole_or_totalCompare_eq a b with ⟨m, n, rfl, rfl⟩ | ⟨hab, hba⟩
    · exact Std.OrientedOrd.eq_swap (a := m) (b := n)
    · rw [hab, hba]
      exact Std.OrientedOrd.eq_swap

/-- A number that is not greater than another has no later place. -/
theorem rank_le_of_isLE (h : (a.totalCompare b).isLE = true) : a.rank ≤ b.rank := by
  rcases whole_or_totalCompare_eq a b with ⟨m, n, rfl, rfl⟩ | ⟨hab, -⟩
  · exact Binary64.rank_ofInt_mono (Std.isLE_compare.1 h)
  · rw [hab] at h
    exact Std.isLE_compare.1 h

/-- The order is not transitive where a whole number is equal to the number that it is rounded to,
and this one to a lesser whole number that is rounded to it too. Everywhere else it is. -/
theorem not_isLE_trans_iff :
    ((a.totalCompare b).isLE = true ∧ (b.totalCompare c).isLE = true ∧
        (a.totalCompare c).isLE = false) ↔
      ∃ m n : Int, n < m ∧ Binary64.ofInt n = Binary64.ofInt m ∧
        a = .integer m ∧ b = .float (Binary64.ofInt m) ∧ c = .integer n := by
  constructor
  · rintro ⟨hab, hbc, hac⟩
    have habRank := rank_le_of_isLE hab
    have hbcRank := rank_le_of_isLE hbc
    have hac := Bool.eq_false_iff.1 hac
    rcases whole_or_totalCompare_eq a c with ⟨m, n, rfl, rfl⟩ | ⟨hcompare, -⟩
    · have hlt : n < m := by
        apply Int.lt_of_not_ge
        intro hle
        exact hac (Std.isLE_compare.2 hle)
      cases b with
      | integer k =>
        have hmk : m ≤ k := Std.isLE_compare.1 hab
        have hkn : k ≤ n := Std.isLE_compare.1 hbc
        omega
      | float x =>
        -- Rounding keeps the order, so both whole numbers have the place of the number between.
        have hround : (Binary64.ofInt n).rank ≤ (Binary64.ofInt m).rank :=
          Binary64.rank_ofInt_mono (Int.le_of_lt hlt)
        have hm : (Binary64.ofInt m).rank ≤ x.rank := habRank
        have hn : x.rank ≤ (Binary64.ofInt n).rank := hbcRank
        have hx : x = Binary64.ofInt m := Binary64.rank_injective (by omega)
        exact ⟨m, n, hlt, Binary64.rank_injective (by omega), rfl, by rw [hx], rfl⟩
    · rw [hcompare] at hac
      exact absurd (Std.isLE_compare.2 (Int.le_trans habRank hbcRank)) hac
  · rintro ⟨m, n, hlt, hround, rfl, rfl, rfl⟩
    have hself : (compare (Binary64.ofInt m).rank (Binary64.ofInt m).rank).isLE = true :=
      Std.isLE_compare.2 (Int.le_refl _)
    refine ⟨hself, ?_, ?_⟩
    · change (compare (Binary64.ofInt m).rank (Binary64.ofInt n).rank).isLE = true
      rwa [hround]
    · apply Bool.eq_false_iff.2
      intro hle
      have hmn : m ≤ n := Std.isLE_compare.1 hle
      omega

/-- Among numbers of one kind the order is transitive. -/
theorem isLE_trans_of_kind (h : a.kind = b.kind) (hab : (a.totalCompare b).isLE = true)
    (hbc : (b.totalCompare c).isLE = true) : (a.totalCompare c).isLE = true := by
  cases hac : (a.totalCompare c).isLE with
  | true => rfl
  | false =>
    obtain ⟨m, n, -, -, rfl, rfl, -⟩ := not_isLE_trans_iff.1 ⟨hab, hbc, hac⟩
    cases h

/-- Both `2 ^ 53` and the whole number after it are rounded to `2 ^ 53`, and so are equal to that
number of double precision, but not to each other. -/
theorem not_trans_totalCompare :
    ¬ ∀ a b c : Number, a.totalCompare b ≠ .gt → b.totalCompare c ≠ .gt →
      a.totalCompare c ≠ .gt := by
  intro h
  have hle := h (.integer 0x20000000000001) (.float ⟨0x4340000000000000⟩)
    (.integer 0x20000000000000) (by decide +kernel) (by decide +kernel)
  exact absurd hle (by decide +kernel)

/-- Each of these stands behind one that it is equal to, so sorting leaves the first and the last of
them in the wrong order. -/
example :
    let values : List Value := [.number (.integer 0x20000000000001),
      .number (.float ⟨0x4340000000000000⟩), .number (.integer 0x20000000000000)]
    SortOrder.sort ⟨(), .ascending⟩ values = values := by
  decide +kernel

end GameShelf.Number
