import GameShelf.Numeral.Decimal
import GameShelf.Text.Blank

/-!
# Written numbers

The characters that numbers are written with, and the whole numbers that are read from their
decimal digits. A number holds nothing but digits, signs, a point and the letter of an exponent.
-/

namespace GameShelf

namespace Numeral

/-! ## Characters -/

/-- Whether a character can stand in a number. -/
def isMark (c : Char) : Bool :=
  c.isDigit || ['+', '-', '.', 'e', 'E'].contains c

theorem isMark_of_isDigit {c : Char} (h : c.isDigit = true) : isMark c = true := by
  rw [isMark, h]
  rfl

theorem isBlank_of_isMark {c : Char} (h : isMark c = true) : Text.isBlank c = false := by
  rw [isMark, Bool.or_eq_true, List.contains_iff_mem] at h
  rcases h with hdigit | hmem
  · have hbounds : 48 ≤ c.toNat ∧ c.toNat ≤ 57 := by
      simpa [Char.isDigit, UInt32.le_iff_toNat_le] using hdigit
    simp only [Text.isBlank, Bool.or_eq_false_iff, Bool.and_eq_false_iff, decide_eq_false_iff_not,
      beq_eq_false_iff_ne]
    omega
  · have hall : (['+', '-', '.', 'e', 'E'].all fun d ↦ !Text.isBlank d) = true := by decide
    exact Bool.not_eq_eq_eq_not.1 (List.all_eq_true.1 hall c hmem)

theorem all_isMark_of_isDigit {cs : List Char} (h : cs.all Char.isDigit = true) :
    cs.all isMark = true := by
  apply List.all_eq_true.2
  intro c hc
  exact isMark_of_isDigit (List.all_eq_true.1 h c hc)

/-- Nothing but the rest after some digits can hold other characters than digits. -/
theorem all_isMark_of_dropWhile {cs : List Char}
    (h : (cs.dropWhile Char.isDigit).all isMark = true) : cs.all isMark = true := by
  rw [← List.takeWhile_append_dropWhile (p := Char.isDigit) (l := cs), List.all_append, h,
    Bool.and_true]
  exact all_isMark_of_isDigit List.all_takeWhile

theorem all_isMark_of_takeSign {cs : List Char} (h : (takeSign cs).2.all isMark = true) :
    cs.all isMark = true := by
  unfold takeSign at h
  split at h
  · rw [List.all_cons, h]
    rfl
  · rw [List.all_cons, h]
    rfl
  · exact h

theorem all_isMark_of_integer? {cs : List Char} {n : Int} (h : integer? cs = some n) :
    cs.all isMark = true := by
  obtain ⟨m, hm, -⟩ := Option.map_eq_some_iff.1 h
  apply all_isMark_of_takeSign
  apply all_isMark_of_isDigit
  exact List.all_eq_true.2 (natural?_eq_some_iff.1 hm).1.2

theorem ne_nil_of_integer? {cs : List Char} {n : Int} (h : integer? cs = some n) : cs ≠ [] := by
  rintro rfl
  cases h

/-! ## Decimal digits -/

theorem digitsValue_eq_ofDigitChars (cs : List Char) :
    digitsValue cs = Nat.ofDigitChars 10 cs 0 :=
  Nat.ofDigitChars_eq_foldl.symm

theorem natural?_toDigits (n : Nat) : natural? (Nat.toDigits 10 n) = some n := by
  rw [natural?_eq_some_iff]
  refine ⟨⟨Nat.toDigits_ne_nil, ?_⟩, ?_⟩
  · intro c hc
    exact Nat.isDigit_of_mem_toDigits (by decide) (by decide) hc
  · rw [digitsValue_eq_ofDigitChars, Nat.ofDigitChars_ten_toDigits]

theorem takeSign_of_isDigit {cs : List Char} (h : ∀ c ∈ cs, c.isDigit = true) :
    takeSign cs = (false, cs) := by
  unfold takeSign
  split
  · exact absurd (h '-' List.mem_cons_self) (by decide)
  · exact absurd (h '+' List.mem_cons_self) (by decide)
  · rfl

theorem integer?_of_natural? {cs : List Char} {n : Nat} (h : natural? cs = some n) :
    integer? cs = some (n : Int) := by
  rw [integer?, takeSign_of_isDigit (natural?_eq_some_iff.1 h).1.2]
  simp [h, applySign]

/-- A whole number is read from its decimal digits, with a minus sign if it is negative. -/
theorem integer?_repr (n : Int) : integer? n.repr.toList = some n := by
  cases n with
  | ofNat n =>
    have hrepr : (Int.ofNat n).repr.toList = Nat.toDigits 10 n := by
      simp [Int.repr]
    rw [hrepr]
    exact integer?_of_natural? (natural?_toDigits n)
  | negSucc n =>
    have hrepr : (Int.negSucc n).repr.toList = '-' :: Nat.toDigits 10 (n + 1) := by
      simp [Int.repr]
    rw [hrepr]
    change (natural? (Nat.toDigits 10 (n + 1))).map (applySign true) = some (Int.negSucc n)
    rw [natural?_toDigits]
    rfl

end Numeral

/-! ## Decimals -/

namespace Decimal

open Numeral (isMark)

theorem all_isMark_of_exponentPart? {cs : List Char} {e : Int}
    (h : exponentPart? cs = some e) : cs.all isMark = true := by
  unfold exponentPart? at h
  split at h
  · rfl
  · split at h
    · next hc =>
      rw [List.all_cons, Numeral.all_isMark_of_integer? h, Bool.and_true]
      rcases hc with rfl | rfl <;> rfl
    · cases h

theorem all_isMark_of_fractionPart {cs : List Char}
    (h : (fractionPart cs).2.all isMark = true) : cs.all isMark = true := by
  unfold fractionPart at h
  split at h
  · rw [List.all_cons, Numeral.all_isMark_of_dropWhile h]
    rfl
  · exact h

theorem all_isMark_of_ofLiteral? {cs : List Char} {x : Decimal} (h : ofLiteral? cs = some x) :
    cs.all isMark = true := by
  unfold ofLiteral? at h
  dsimp only at h
  split at h
  · cases h
  · obtain ⟨e, he, -⟩ := Option.map_eq_some_iff.1 h
    apply Numeral.all_isMark_of_takeSign
    apply Numeral.all_isMark_of_dropWhile
    apply all_isMark_of_fractionPart
    exact all_isMark_of_exponentPart? he

theorem all_isMark_of_finite? {cs : List Char} {x : Binary64} (h : finite? cs = some x) :
    cs.all isMark = true := by
  obtain ⟨hread, -⟩ := Option.filter_eq_some_iff.1 h
  obtain ⟨d, hd, -⟩ := Option.map_eq_some_iff.1 hread
  exact all_isMark_of_ofLiteral? hd

theorem ne_nil_of_finite? {cs : List Char} {x : Binary64} (h : finite? cs = some x) :
    cs ≠ [] := by
  rintro rfl
  cases h

theorem isFinite_of_finite? {cs : List Char} {x : Binary64} (h : finite? cs = some x) :
    x.isFinite = true :=
  (Option.filter_eq_some_iff.1 h).2

end Decimal

end GameShelf
