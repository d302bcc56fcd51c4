import GameShelf.Proofs.Text.Order
import GameShelf.Proofs.Text.Utf8

/-!
# The order of code points

In UTF-8 the first byte of a character tells how many bytes follow, and holds the first digits of
the code point; each byte that follows holds one more digit in base 64. A code point that takes more
bytes is greater and has a greater first byte. So comparing the bytes of two texts is comparing the
code points of their characters, and up to letter case it is comparing those of the texts in lower
case.
-/

namespace GameShelf.Text

open String (utf8EncodeChar)

/-- The order of two texts by the code points of their characters. -/
def compareCodePoints (a b : String) : Ordering :=
  List.compareLex compare (a.toList.map Char.toNat) (b.toList.map Char.toNat)

/-! ## Bytes of a code point -/

/-- The number of bytes that follow the first one of a code point. -/
def trailingCount (n : Nat) : Nat :=
  if n ≤ 0x7F then 0 else if n ≤ 0x7FF then 1 else if n ≤ 0xFFFF then 2 else 3

/-- The first byte of a code point: a mark for the number of bytes that follow, and the digits that
they leave. -/
def leadingByte (n : Nat) : Nat :=
  match trailingCount n with
  | 0 => n
  | 1 => 0xC0 + n / 64
  | 2 => 0xE0 + n / 64 ^ 2
  | _ => 0xF0 + n / 64 ^ 3

/-- The bytes of the last digits of a code point in base 64. -/
def trailingBytes : Nat → Nat → List UInt8
  | 0, _ => []
  | count + 1, n => UInt8.ofNat (n / 64 ^ count % 64 + 0x80) :: trailingBytes count n

theorem utf8EncodeChar_eq (c : Char) :
    utf8EncodeChar c =
      UInt8.ofNat (leadingByte c.toNat) :: trailingBytes (trailingCount c.toNat) c.toNat := by
  have hmax : c.val.toNat ≤ 0x10FFFF := Char.toNat_le_max c
  rw [← Char.toNat_val]
  simp only [utf8EncodeChar, leadingByte, trailingCount]
  split_ifs
  · rfl
  · have hdigits : c.val.toNat / 64 % 32 = c.val.toNat / 64 := Nat.mod_eq_of_lt (by omega)
    simp only [trailingBytes, Nat.pow_zero, Nat.div_one, hdigits, Nat.add_comm]
  · have hdigits : c.val.toNat / 4096 % 16 = c.val.toNat / 4096 := Nat.mod_eq_of_lt (by omega)
    simp only [trailingBytes, Nat.reducePow, Nat.pow_one, Nat.div_one, hdigits, Nat.add_comm]
  · have hdigits : c.val.toNat / 262144 % 8 = c.val.toNat / 262144 := Nat.mod_eq_of_lt (by omega)
    simp only [trailingBytes, Nat.reducePow, Nat.pow_one, Nat.div_one, hdigits, Nat.add_comm]

theorem leadingByte_lt {n : Nat} (h : n ≤ 0x10FFFF) : leadingByte n < 0x100 := by
  unfold leadingByte trailingCount
  split_ifs <;> simp only [Nat.reducePow] <;> omega

/-- Of two code points the lesser one has the lesser first byte, unless both have as many bytes and
the same digits in the first one. -/
theorem leadingByte_lt_or {m n : Nat} (h : m < n) :
    leadingByte m < leadingByte n ∨ leadingByte m = leadingByte n ∧
      trailingCount m = trailingCount n ∧
        m / 64 ^ trailingCount m = n / 64 ^ trailingCount m := by
  unfold leadingByte trailingCount
  split_ifs <;> simp only [Nat.reducePow, Nat.pow_zero, Nat.div_one, true_and] <;> omega

/-! ## Comparing bytes -/

theorem compareLex_cons_of_lt {m n : Nat} (h : m < n) (hn : n < 0x100) (xs ys : List UInt8) :
    List.compareLex compare (UInt8.ofNat m :: xs) (UInt8.ofNat n :: ys) = .lt := by
  have hlt : UInt8.ofNat m < UInt8.ofNat n := by
    rw [UInt8.lt_iff_toNat_lt, UInt8.toNat_ofNat_of_lt' hn, UInt8.toNat_ofNat_of_lt' (h.trans hn)]
    exact h
  rw [List.compareLex_cons_cons, Std.compare_eq_lt.2 hlt]
  rfl

theorem compareLex_append (front xs ys : List UInt8) :
    List.compareLex compare (front ++ xs) (front ++ ys) = List.compareLex compare xs ys := by
  induction front with
  | nil => rfl
  | cons b front ih =>
    rw [List.cons_append, List.cons_append, List.compareLex_cons_cons, Std.compare_self, ih]
    rfl

/-- Of two numbers that differ in their last digits only, the digits decide. -/
theorem compareLex_trailingBytes {count m n : Nat} (h : m < n)
    (hfront : m / 64 ^ count = n / 64 ^ count) (xs ys : List UInt8) :
    List.compareLex compare (trailingBytes count m ++ xs) (trailingBytes count n ++ ys) = .lt := by
  induction count with
  | zero =>
    rw [Nat.pow_zero, Nat.div_one, Nat.div_one] at hfront
    exact absurd hfront h.ne
  | succ count ih =>
    rw [Nat.pow_succ, ← Nat.div_div_eq_div_mul, ← Nat.div_div_eq_div_mul] at hfront
    rw [trailingBytes, trailingBytes, List.cons_append, List.cons_append]
    -- Either the first of these digits differs already, or the numbers differ in the rest only.
    have hle : m / 64 ^ count ≤ n / 64 ^ count := Nat.div_le_div_right h.le
    rcases Nat.eq_or_lt_of_le hle with heq | hlt
    · rw [heq, List.compareLex_cons_cons, Std.compare_self, ih heq]
      rfl
    · exact compareLex_cons_of_lt (by omega) (by omega) _ _

/-- Characters are compared by their bytes as by their code points, whatever follows. -/
theorem compareLex_utf8EncodeChar {c d : Char} (h : c.toNat < d.toNat) (xs ys : List UInt8) :
    List.compareLex compare (utf8EncodeChar c ++ xs) (utf8EncodeChar d ++ ys) = .lt := by
  rw [utf8EncodeChar_eq, utf8EncodeChar_eq, List.cons_append, List.cons_append]
  rcases leadingByte_lt_or h with hlt | ⟨hlead, hcount, hfront⟩
  · exact compareLex_cons_of_lt hlt (leadingByte_lt (Char.toNat_le_max d)) _ _
  · rw [hlead, ← hcount, List.compareLex_cons_cons, Std.compare_self]
    exact compareLex_trailingBytes h hfront xs ys

theorem compareLex_flatMap_utf8EncodeChar (s t : List Char) :
    List.compareLex compare (s.flatMap utf8EncodeChar) (t.flatMap utf8EncodeChar) =
      List.compareLex compare (s.map Char.toNat) (t.map Char.toNat) := by
  induction s generalizing t with
  | nil =>
    cases t with
    | nil => rfl
    | cons d t =>
      rw [List.flatMap_cons, utf8EncodeChar_eq]
      rfl
  | cons c s ih =>
    cases t with
    | nil =>
      rw [List.flatMap_cons, utf8EncodeChar_eq]
      rfl
    | cons d t =>
      rw [List.flatMap_cons, List.flatMap_cons, List.map_cons, List.map_cons,
        List.compareLex_cons_cons]
      rcases Nat.lt_trichotomy c.toNat d.toNat with hlt | heq | hgt
      · rw [compareLex_utf8EncodeChar hlt, Nat.compare_eq_lt.2 hlt]
        rfl
      · obtain rfl : c = d := Char.toNat_inj.1 heq
        rw [compareLex_append, ih, Std.compare_self]
        rfl
      · rw [Std.OrientedCmp.gt_of_lt (compareLex_utf8EncodeChar hgt _ _), Nat.compare_eq_gt.2 hgt]
        rfl

/-! ## Comparing texts -/

theorem compareBytes_eq_compareCodePoints (a b : String) :
    compareBytes a b = compareCodePoints a b :=
  compareLex_flatMap_utf8EncodeChar a.toList b.toList

/-- Every character of four bytes comes after every one of three, unlike in UTF-16. -/
example : compareBytes "\uFF5A" "𝐀" = .lt := by decide +kernel

theorem compareFold_eq_compareBytes (a b : String) :
    compareFold a b = compareBytes (fold a) (fold b) := by
  rw [compareFold, ← utf8_fold, ← utf8_fold, compareBytes]

theorem compareFold_eq_eq_iff {a b : String} : compareFold a b = .eq ↔ equalFold a b = true := by
  rw [compareFold_eq_compareBytes, Std.LawfulEqCmp.compare_eq_iff_eq, equalFold_iff_fold_eq]

end GameShelf.Text
