/-!
# Double-precision numbers

A number of the binary64 format, held as its 64-bit pattern: a sign bit, eleven bits of exponent and
fifty-two bits of fraction. The pattern is kept as it is, so two NaNs of different payload and the
two zeros are different values of the type.

Every finite number is a whole multiple of `2⁻¹⁰⁷⁴`, and `scaled` is that multiple. The same
arithmetic on the fields of an infinity gives `± 2²⁰⁹⁸`, beyond every finite number, so numbers are
compared through `scaled` alone. `totalCompare` orders all patterns, NaNs and zeros included, by
sign and then by the remaining bits.
-/

namespace GameShelf

/-- A double-precision number, as its pattern of 64 bits. -/
structure Binary64 where
  bits : UInt64
deriving DecidableEq, Repr

namespace Binary64

/-- The sign bit of a pattern, `2⁶³`. -/
def signBit : Nat := 0x8000000000000000

/-- The number of patterns of one exponent, `2⁵²`. -/
def fractionCount : Nat := 0x10000000000000

/-- The pattern of positive infinity, the least pattern without a finite value. -/
def infinityPattern : Nat := 0x7FF0000000000000

/-- The number with a given sign and the given 63 bits of exponent and fraction. -/
def ofPattern (negative : Bool) (pattern : Nat) : Binary64 :=
  ⟨UInt64.ofNat (if negative then signBit + pattern else pattern)⟩

def zero : Binary64 := ⟨0⟩

instance : Inhabited Binary64 := ⟨zero⟩

variable (x : Binary64)

def negative : Bool := signBit ≤ x.bits.toNat

/-- The bits of exponent and fraction. -/
def pattern : Nat := x.bits.toNat % signBit

def exponent : Nat := x.pattern / fractionCount

def fraction : Nat := x.pattern % fractionCount

def isNaN : Bool := infinityPattern < x.pattern

def isFinite : Bool := x.pattern < infinityPattern

/-- The absolute value as a multiple of `2⁻¹⁰⁷⁴`. Only numbers of the least exponent lack the leading
bit of the significand. -/
def magnitude : Nat :=
  if x.exponent = 0 then x.fraction else (fractionCount + x.fraction) <<< (x.exponent - 1)

/-- The value as a multiple of `2⁻¹⁰⁷⁴`. -/
def scaled : Int :=
  if x.negative then -x.magnitude else x.magnitude

/-- The order of two numbers by value; a NaN has no place in it. -/
def partialCompare (x y : Binary64) : Option Ordering :=
  if x.isNaN || y.isNaN then none else some (compare x.scaled y.scaled)

/-- The place of a pattern in the total order: negative patterns come first, larger ones before
smaller ones. -/
def rank : Int :=
  if x.negative then -x.pattern - 1 else x.pattern

/-- The order of two patterns, by sign and then by the bits of exponent and fraction. -/
def totalCompare (x y : Binary64) : Ordering :=
  compare x.rank y.rank

theorem pattern_lt : x.pattern < signBit :=
  Nat.mod_lt _ (by decide)

theorem fraction_lt : x.fraction < fractionCount :=
  Nat.mod_lt _ (by decide)

theorem toNat_bits_ofPattern {n : Bool} {p : Nat} (h : p < signBit) :
    (ofPattern n p).bits.toNat = if n then signBit + p else p := by
  unfold ofPattern
  unfold signBit at h ⊢
  rw [UInt64.toNat_ofNat']
  split <;> omega

/-- The sign and the remaining bits determine the pattern. -/
@[simp]
theorem ofPattern_pattern : ofPattern x.negative x.pattern = x := by
  have hlt := x.bits.toNat_lt
  refine congrArg Binary64.mk (UInt64.toNat_inj.1 ?_)
  refine (toNat_bits_ofPattern x.pattern_lt).trans ?_
  by_cases hn : x.negative = true
  · have := of_decide_eq_true hn
    rw [if_pos hn, pattern]
    unfold signBit at this ⊢
    omega
  · have := of_decide_eq_false (Bool.not_eq_true _ ▸ hn)
    rw [if_neg hn, pattern]
    unfold signBit at this ⊢
    omega

theorem negative_ofPattern {n : Bool} {p : Nat} (h : p < signBit) :
    (ofPattern n p).negative = n := by
  rw [negative, toNat_bits_ofPattern h]
  cases n
  · exact decide_eq_false (Nat.not_le.2 h)
  · exact decide_eq_true (Nat.le_add_right _ _)

theorem pattern_ofPattern {n : Bool} {p : Nat} (h : p < signBit) :
    (ofPattern n p).pattern = p := by
  rw [pattern, toNat_bits_ofPattern h]
  unfold signBit at h ⊢
  split <;> omega

end Binary64

end GameShelf
