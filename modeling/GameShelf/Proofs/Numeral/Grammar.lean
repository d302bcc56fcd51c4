import GameShelf.Proofs.Numeral.Digits
import Mathlib.Data.List.Induction

/-!
# What writes a whole number

A number is written by one or more decimal digits. Another digit at the end makes ten times the
number that stands before it, and adds its own value. A sign may stand before the digits. Reading
finds the number of exactly those texts that write one.
-/

namespace GameShelf.Numeral

/-- Decimal digits that write a number. -/
inductive Writes : List Char → Nat → Prop where
  | digit {c : Char} (h : c.isDigit = true) : Writes [c] (c.toNat - '0'.toNat)
  | concat {cs : List Char} {n : Nat} {c : Char} (hcs : Writes cs n) (h : c.isDigit = true) :
      Writes (cs ++ [c]) (10 * n + (c.toNat - '0'.toNat))

/-- Digits that write a number, perhaps with a sign before them. -/
inductive WritesSigned : List Char → Int → Prop where
  | unsigned {cs : List Char} {n : Nat} (h : Writes cs n) : WritesSigned cs n
  | plus {cs : List Char} {n : Nat} (h : Writes cs n) : WritesSigned ('+' :: cs) n
  | minus {cs : List Char} {n : Nat} (h : Writes cs n) : WritesSigned ('-' :: cs) (-n)

variable {cs : List Char}

theorem Writes.ne_nil {n : Nat} (h : Writes cs n) : cs ≠ [] := by
  cases h with
  | digit => exact List.cons_ne_nil _ _
  | concat => exact List.append_ne_nil_of_right_ne_nil _ (List.cons_ne_nil _ _)

theorem Writes.isDigit {n : Nat} (h : Writes cs n) : ∀ c ∈ cs, c.isDigit = true := by
  induction h with
  | digit h => exact List.forall_mem_singleton.2 h
  | concat _ h ih => exact List.forall_mem_append.2 ⟨ih, List.forall_mem_singleton.2 h⟩

theorem Writes.digitsValue_eq {n : Nat} (h : Writes cs n) : digitsValue cs = n := by
  induction h with
  | digit => simp [digitsValue]
  | concat _ _ ih => rw [digitsValue_concat, ih]

/-- Every row of digits writes its value. -/
theorem writes_digitsValue (hne : cs ≠ []) (h : ∀ c ∈ cs, c.isDigit = true) :
    Writes cs (digitsValue cs) := by
  induction cs using List.reverseRecOn with
  | nil => exact absurd rfl hne
  | append_singleton cs c ih =>
    obtain ⟨hcs, hc⟩ := List.forall_mem_append.1 h
    have hdigit := hc c (List.mem_singleton.2 rfl)
    rw [digitsValue_concat]
    by_cases hnil : cs = []
    · rw [hnil, List.nil_append]
      simpa [digitsValue] using Writes.digit hdigit
    · exact .concat (ih hnil hcs) hdigit

theorem natural?_eq_some_iff_writes {n : Nat} : natural? cs = some n ↔ Writes cs n := by
  rw [natural?_eq_some_iff]
  constructor
  · rintro ⟨⟨hne, hdigits⟩, rfl⟩
    exact writes_digitsValue hne hdigits
  · intro h
    exact ⟨⟨h.ne_nil, h.isDigit⟩, h.digitsValue_eq⟩

theorem integer?_eq_some_iff_writesSigned {n : Int} :
    integer? cs = some n ↔ WritesSigned cs n := by
  constructor
  · intro h
    obtain ⟨m, hm, rfl⟩ : ∃ m, natural? (takeSign cs).2 = some m ∧
        applySign (takeSign cs).1 m = n := Option.map_eq_some_iff.1 h
    rw [natural?_eq_some_iff_writes] at hm
    unfold takeSign at hm ⊢
    split at hm
    · exact .minus hm
    · exact .plus hm
    · exact .unsigned hm
  · intro h
    cases h with
    | unsigned h => exact integer?_of_natural? (natural?_eq_some_iff_writes.2 h)
    | plus h => exact Option.map_eq_some_iff.2 ⟨_, natural?_eq_some_iff_writes.2 h, rfl⟩
    | minus h => exact Option.map_eq_some_iff.2 ⟨_, natural?_eq_some_iff_writes.2 h, rfl⟩

end GameShelf.Numeral
