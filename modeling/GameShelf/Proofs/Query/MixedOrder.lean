import GameShelf.Proofs.Binary64.Value
import GameShelf.Proofs.Query.NumberOrder

/-!
# Whole numbers beside numbers of double precision

A whole number is rounded before it is compared with a number of double precision. Two that differ
may then be taken for equal, but never for greater and less the wrong way round, and not even for
equal as long as the whole number is at most `2 ^ 53` in absolute value. The order by value does not
depend on which of two numbers comes first, only a NaN has no place in it, and numbers that it tells
apart have the same order for sorting.
-/

namespace GameShelf

namespace Binary64

variable {x y : Binary64}

theorem partialCompare_of_isNaN_eq_false (hx : x.isNaN = false) (hy : y.isNaN = false) :
    x.partialCompare y = some (compare x.scaled y.scaled) := by
  rw [partialCompare, hx, hy]
  rfl

theorem partialCompare_eq_none_iff :
    x.partialCompare y = none ↔ x.isNaN = true ∨ y.isNaN = true := by
  rw [partialCompare, ← Bool.or_eq_true]
  split
  · next h => exact iff_of_true rfl h
  · next h => exact iff_of_false (Option.some_ne_none _) h

theorem partialCompare_swap (x y : Binary64) :
    y.partialCompare x = (x.partialCompare y).map Ordering.swap := by
  rw [partialCompare, partialCompare, Bool.or_comm]
  split
  · rfl
  · exact congrArg some Std.OrientedOrd.eq_swap

theorem rank_lt_of_scaled_lt (h : x.scaled < y.scaled) : x.rank < y.rank := by
  apply Int.lt_of_not_ge
  intro hle
  exact Int.not_lt.2 (scaled_le_of_rank_le hle) h

/-- Numbers that differ in value have the same order among all patterns. -/
theorem totalCompare_of_partialCompare {o : Ordering} (hne : o ≠ .eq)
    (h : x.partialCompare y = some o) : x.totalCompare y = o := by
  have hcompare : compare x.scaled y.scaled = o := by
    rw [partialCompare] at h
    split at h
    · cases h
    · exact Option.some.inj h
  cases o with
  | lt => exact Std.compare_eq_lt.2 (rank_lt_of_scaled_lt (Std.compare_eq_lt.1 hcompare))
  | eq => exact absurd rfl hne
  | gt => exact Std.compare_eq_gt.2 (rank_lt_of_scaled_lt (Std.compare_eq_gt.1 hcompare))

end Binary64

namespace Number

/-! ## Two numbers -/

variable {a b : Number}

/-- Two numbers are whole, or they are compared as numbers of double precision. -/
theorem whole_or_compare?_eq (a b : Number) :
    (∃ m n, a = .integer m ∧ b = .integer n) ∨
      a.compare? b = a.toBinary64.partialCompare b.toBinary64 ∧
        b.compare? a = b.toBinary64.partialCompare a.toBinary64 ∧
        a.totalCompare b = a.toBinary64.totalCompare b.toBinary64 := by
  cases a with
  | float x => exact .inr ⟨rfl, by cases b <;> rfl, rfl⟩
  | integer m =>
    cases b with
    | float y => exact .inr ⟨rfl, rfl, rfl⟩
    | integer n => exact .inl ⟨m, n, rfl, rfl⟩

theorem compare?_swap (a b : Number) : b.compare? a = (a.compare? b).map Ordering.swap := by
  rcases whole_or_compare?_eq a b with ⟨m, n, rfl, rfl⟩ | ⟨hab, hba, -⟩
  · exact congrArg some Std.OrientedOrd.eq_swap
  · rw [hab, hba, Binary64.partialCompare_swap]

theorem compare?_eq_none_iff : a.compare? b = none ↔ a.isNaN = true ∨ b.isNaN = true := by
  rcases whole_or_compare?_eq a b with ⟨m, n, rfl, rfl⟩ | ⟨hab, -⟩
  · exact iff_of_false nofun (by rintro (h | h) <;> cases h)
  · rw [hab, Binary64.partialCompare_eq_none_iff, isNaN_toBinary64, isNaN_toBinary64]

/-- Numbers that differ in value have the same order for sorting. -/
theorem totalCompare_of_compare? {o : Ordering} (hne : o ≠ .eq) (h : a.compare? b = some o) :
    a.totalCompare b = o := by
  rcases whole_or_compare?_eq a b with ⟨m, n, rfl, rfl⟩ | ⟨hab, -, htotal⟩
  · exact Option.some.inj h
  · rw [hab] at h
    rw [htotal]
    exact Binary64.totalCompare_of_partialCompare hne h

/-! ## A whole number and another one -/

variable {n : ℤ} {x : Binary64}

theorem compare?_integer_float (hx : x.isNaN = false) :
    (integer n).compare? (float x) = some (compare (Binary64.ofInt n).scaled x.scaled) :=
  Binary64.partialCompare_of_isNaN_eq_false (Binary64.isNaN_ofRatio _ _ _) hx

/-- A whole number that is less than another number is not taken for greater. -/
theorem compare?_of_lt_value (hx : x.isNaN = false) (h : ((n : ℝ) : EReal) < x.value) :
    (integer n).compare? (float x) = some .lt ∨ (integer n).compare? (float x) = some .eq := by
  rw [compare?_integer_float hx]
  rcases Int.lt_or_eq_of_le (Binary64.scaled_ofInt_le hx h.le) with hlt | heq
  · exact .inl (congrArg some (Std.compare_eq_lt.2 hlt))
  · exact .inr (congrArg some (Std.compare_eq_iff_eq.2 heq))

/-- A whole number that is greater than another number is not taken for less. -/
theorem compare?_of_value_lt (hx : x.isNaN = false) (h : x.value < ((n : ℝ) : EReal)) :
    (integer n).compare? (float x) = some .gt ∨ (integer n).compare? (float x) = some .eq := by
  rw [compare?_integer_float hx]
  rcases Int.lt_or_eq_of_le (Binary64.le_scaled_ofInt hx h.le) with hlt | heq
  · exact .inl (congrArg some (Std.compare_eq_gt.2 hlt))
  · exact .inr (congrArg some (Std.compare_eq_iff_eq.2 heq.symm))

theorem compare?_of_eq_value (hx : x.isNaN = false) (h : ((n : ℝ) : EReal) = x.value) :
    (integer n).compare? (float x) = some .eq := by
  have hscaled : (Binary64.ofInt n).scaled = x.scaled :=
    Int.le_antisymm (Binary64.scaled_ofInt_le hx h.le) (Binary64.le_scaled_ofInt hx h.ge)
  rw [compare?_integer_float hx, hscaled]
  exact congrArg some Std.ReflOrd.compare_self

/-- A whole number and a number of double precision that is not a NaN are never put in the wrong
order: if one of them is less than the other, as real numbers with an infinity at either end, it is
taken for less or equal, and if they are equal they are taken for equal. Up to `2 ^ 53` in absolute
value a whole number is compared exactly. Of any two numbers, the order is reversed when they change
places; it is absent if and only if one of them is a NaN; and if they are not taken for equal, the
order for sorting is the same. -/
theorem compare?_keeps_exact_order :
    (∀ (n : ℤ) (x : Binary64), x.isNaN = false →
        (((n : ℝ) : EReal) < x.value →
          (integer n).compare? (float x) = some .lt ∨
            (integer n).compare? (float x) = some .eq) ∧
        (x.value < ((n : ℝ) : EReal) →
          (integer n).compare? (float x) = some .gt ∨
            (integer n).compare? (float x) = some .eq) ∧
        (((n : ℝ) : EReal) = x.value → (integer n).compare? (float x) = some .eq) ∧
        (n.natAbs ≤ 2 ^ 53 →
          (integer n).compare? (float x) = some (compare ((n : ℝ) : EReal) x.value))) ∧
      ∀ a b : Number,
        b.compare? a = (a.compare? b).map Ordering.swap ∧
        (a.compare? b = none ↔ a.isNaN = true ∨ b.isNaN = true) ∧
        ∀ o, o ≠ .eq → a.compare? b = some o → a.totalCompare b = o := by
  constructor
  · intro n x hx
    refine ⟨compare?_of_lt_value hx, compare?_of_value_lt hx, compare?_of_eq_value hx, ?_⟩
    intro hn
    rw [compare?_integer_float hx, Binary64.compare_scaled_ofInt hn]
  · intro a b
    exact ⟨compare?_swap a b, compare?_eq_none_iff, fun o ↦ totalCompare_of_compare?⟩

/-- The greatest whole number of 64 bits is rounded to `2 ^ 63`, which is greater; negative zero is
zero; and `2 ^ 53` and the least whole number of 64 bits are compared with an infinity. -/
theorem compare?_keeps_exact_order_limits :
    let greatest : ℤ := 0x7FFFFFFFFFFFFFFF
    let beyond : Binary64 := ⟨0x43E0000000000000⟩
    let negativeZero : Binary64 := ⟨0x8000000000000000⟩
    let bottom : Binary64 := ⟨0xFFF0000000000000⟩
    (beyond.isNaN = false ∧ negativeZero.isNaN = false ∧ bottom.isNaN = false) ∧
      ((greatest : ℝ) : EReal) < beyond.value ∧
      ((integer greatest).compare? (float beyond) = some .lt ∨
        (integer greatest).compare? (float beyond) = some .eq) ∧
      (((0 : ℤ) : ℝ) : EReal) = negativeZero.value ∧
      (integer 0).compare? (float negativeZero) = some .eq ∧
      bottom.value < (((-0x8000000000000000 : ℤ) : ℝ) : EReal) ∧
      ((integer (-0x8000000000000000)).compare? (float bottom) = some .gt ∨
        (integer (-0x8000000000000000)).compare? (float bottom) = some .eq) ∧
      (integer 0x20000000000000).compare? (float bottom) =
        some (compare (((0x20000000000000 : ℤ) : ℝ) : EReal) bottom.value) ∧
      (integer 0x20000000000000).totalCompare (float bottom) = .gt := by
  intro greatest beyond negativeZero bottom
  have hbeyond : beyond.isNaN = false := by decide
  have hzero : negativeZero.isNaN = false := by decide
  have hbottom : bottom.isNaN = false := by decide
  have hless : ((greatest : ℝ) : EReal) < beyond.value := by
    rw [← not_le, Binary64.value_le_intCast_iff (by decide)]
    decide +kernel
  have hequal : (((0 : ℤ) : ℝ) : EReal) = negativeZero.value := by
    apply le_antisymm
    · exact (Binary64.intCast_le_value_iff (by decide)).2 (by decide)
    · exact (Binary64.value_le_intCast_iff (by decide)).2 (by decide)
  have hgreater : bottom.value < (((-0x8000000000000000 : ℤ) : ℝ) : EReal) := by
    rw [Binary64.value_of_not_isFinite (by decide)]
    exact EReal.bot_lt_coe _
  obtain ⟨hmixed, hall⟩ := compare?_keeps_exact_order
  refine ⟨⟨hbeyond, hzero, hbottom⟩, hless, (hmixed _ _ hbeyond).1 hless, hequal,
    (hmixed _ _ hzero).2.2.1 hequal, hgreater, (hmixed _ _ hbottom).2.1 hgreater,
    (hmixed _ _ hbottom).2.2.2 (by decide), ?_⟩
  exact (hall _ _).2.2 .gt (by decide) (by decide +kernel)

end Number

end GameShelf
