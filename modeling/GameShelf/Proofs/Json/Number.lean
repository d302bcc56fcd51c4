import GameShelf.Json.Number
import GameShelf.Proofs.Json.Found
import GameShelf.Proofs.Json.Grammar
import GameShelf.Proofs.Numeral.Digits

/-!
# Written numbers are numbers

The text of a whole number is that of an integer, and the text of a finite number of double
precision is that of a number which is read as the same bits, on whichever side of the point its
digits stand and with or without an exponent.
-/

namespace GameShelf

/-! ## Rows of digits -/

namespace Numeral

@[simp]
theorem digitsValue_toDigits (n : Nat) : digitsValue (Nat.toDigits 10 n) = n :=
  (natural?_eq_some_iff.1 (natural?_toDigits n)).2

theorem digitsValue_zeros_append (k : Nat) (cs : List Char) :
    digitsValue (List.replicate k '0' ++ cs) = digitsValue cs := by
  induction k with
  | zero => rfl
  | succ k ih => exact ih

theorem digitsValue_append_zeros (cs : List Char) (k : Nat) :
    digitsValue (cs ++ List.replicate k '0') = Nat.pow 10 k * digitsValue cs := by
  induction k with
  | zero => simp
  | succ k ih =>
    rw [List.replicate_succ', ← List.append_assoc, digitsValue_concat, ih, ← Nat.mul_assoc]
    exact congrArg (· * digitsValue cs) Nat.pow_succ'.symm

/-- The decimal digits of a number begin with zero for zero only. -/
theorem eq_zero_of_head?_toDigits {n : Nat} (h : (Nat.toDigits 10 n).head? = some '0') : n = 0 := by
  induction n using Nat.strongRecOn with
  | ind n ih =>
    by_cases hlt : n < 10
    · have hdigit : ∀ m < 10, Nat.digitChar m = '0' → m = 0 := by decide
      rw [Nat.toDigits_of_lt_base hlt, List.head?_cons, Option.some.injEq] at h
      exact hdigit n hlt h
    · have hne : Nat.toDigits 10 (n / 10) ≠ [] := Nat.toDigits_ne_nil
      obtain ⟨c, cs, hcs⟩ := List.exists_cons_of_ne_nil hne
      rw [Nat.toDigits_of_base_le (by decide) (by omega), hcs, List.cons_append,
        List.head?_cons] at h
      have hzero := ih (n / 10) (by omega) (by rw [hcs, List.head?_cons, h])
      omega

theorem toDigits_eq_of_head? {n : Nat} (h : (Nat.toDigits 10 n).head? = some '0') :
    Nat.toDigits 10 n = ['0'] := by
  rw [eq_zero_of_head?_toDigits h]
  rfl

end Numeral

namespace Decimal

/-- Zeros at the end of the digits can be moved to the exponent. -/
theorem nearestPattern_pow_mul (k digits : Nat) (exponent : Int) :
    nearestPattern (Nat.pow 10 k * digits) exponent = nearestPattern digits (exponent + k) := by
  induction k generalizing exponent with
  | zero => simp
  | succ k ih =>
    have hpow : Nat.pow 10 (k + 1) * digits = 10 * (Nat.pow 10 k * digits) := by
      rw [← Nat.mul_assoc]
      exact congrArg (· * digits) Nat.pow_succ'
    rw [hpow, nearestPattern_ten_mul, ih]
    congr 1
    omega

end Decimal

namespace Json

theorem isDigits_toDigits (n : Nat) : IsDigits (Nat.toDigits 10 n) :=
  ⟨Nat.toDigits_ne_nil, fun _ hc ↦ Nat.isDigit_of_mem_toDigits (by decide) (by decide) hc⟩

theorem isDigits_zero : IsDigits ['0'] :=
  isDigits_toDigits 0

theorem IsDigits.append {cs ds : List Char} (hcs : IsDigits cs) (hds : ∀ c ∈ ds, c.isDigit) :
    IsDigits (cs ++ ds) :=
  ⟨List.append_ne_nil_of_left_ne_nil hcs.1 ds, List.forall_mem_append.2 ⟨hcs.2, hds⟩⟩

theorem isDigit_of_mem_zeros {k : Nat} {c : Char} (h : c ∈ List.replicate k '0') :
    c.isDigit = true := by
  rw [List.eq_of_mem_replicate h]
  rfl

/-! ## Whole numbers -/

def integerNumber (k : Int) : NumberText where
  negative := k < 0
  whole := Nat.toDigits 10 k.natAbs
  fraction := none
  exponent := none

theorem spelled_integerText (k : Int) :
    Token.Spelled (.number (integerNumber k)) (integerText k) := by
  have hbody : (integerNumber k).SpelledBody (Nat.toDigits 10 k.natAbs) :=
    ⟨isDigits_toDigits _, Numeral.toDigits_eq_of_head?, [], [], .none, .none,
      by simp [integerNumber]⟩
  unfold integerText
  split
  · next hneg => exact .negative (decide_eq_true hneg) hbody
  · next hneg => exact .nonnegative (decide_eq_false hneg) hbody

theorem isInteger_integerNumber (k : Int) : (integerNumber k).IsInteger k where
  isWhole := rfl
  value := by
    simp only [integerNumber, Numeral.digitsValue_toDigits, Numeral.applySign, decide_eq_true_eq]
    split <;> omega
  ne_zero h := by
    have hneg : k < 0 := of_decide_eq_true h
    omega

/-! ## Numbers of double precision -/

/-- A number without an exponent is spelled by its digits around the point. -/
theorem spelledBody_of_fraction {n : NumberText} {fraction : List Char} (hwhole : IsDigits n.whole)
    (hzero : n.whole.head? = some '0' → n.whole = ['0']) (hfraction : n.fraction = some fraction)
    (hdigits : IsDigits fraction) (hexponent : n.exponent = none) :
    n.SpelledBody (n.whole ++ '.' :: fraction) := by
  refine ⟨hwhole, hzero, '.' :: fraction, [], ?_, ?_, (List.append_nil _).symm⟩
  · rw [hfraction]
    exact .some hdigits
  · rw [hexponent]
    exact .none

/-- Digits in front of the point are followed by a zero behind it. Without a digit other than zero
there must be no power of ten, because the number would begin with zeros. -/
theorem exists_spelledBody_whole (negative : Bool) (digits k : Nat) (hzero : digits = 0 → k = 0) :
    ∃ n : NumberText, n.negative = negative ∧
      n.SpelledBody (Nat.toDigits 10 digits ++ List.replicate k '0' ++ ['.', '0']) ∧
        n.toDecimal.toBinary64 = (Decimal.mk negative digits k).toBinary64 := by
  let n : NumberText := ⟨negative, Nat.toDigits 10 digits ++ List.replicate k '0', some ['0'], none⟩
  have hwhole : IsDigits n.whole :=
    (isDigits_toDigits digits).append fun c hc ↦ isDigit_of_mem_zeros hc
  have hleading : n.whole.head? = some '0' → n.whole = ['0'] := by
    intro hhead
    have hdigits : digits = 0 := by
      obtain ⟨c, cs, hcs⟩ := List.exists_cons_of_ne_nil (isDigits_toDigits digits).1
      change (Nat.toDigits 10 digits ++ List.replicate k '0').head? = some '0' at hhead
      apply Numeral.eq_zero_of_head?_toDigits
      rwa [hcs] at hhead ⊢
    change Nat.toDigits 10 digits ++ List.replicate k '0' = ['0']
    rw [hzero hdigits, hdigits]
    rfl
  have hvalue := calc
    Numeral.digitsValue (n.whole ++ ['0']) =
        Numeral.digitsValue (Nat.toDigits 10 digits ++ List.replicate (k + 1) '0') := by
      rw [List.replicate_succ', ← List.append_assoc]
    _ = Nat.pow 10 (k + 1) * digits := by
      rw [Numeral.digitsValue_append_zeros, Numeral.digitsValue_toDigits]
  have hdecimal : n.toDecimal = ⟨negative, Nat.pow 10 (k + 1) * digits, -1⟩ := by
    rw [← hvalue]
    rfl
  refine ⟨n, rfl, spelledBody_of_fraction hwhole hleading rfl isDigits_zero rfl, ?_⟩
  have hexponent : (-1 : Int) + ((k + 1 : Nat) : Int) = k := by omega
  calc
    n.toDecimal.toBinary64 =
        .ofPattern negative (Decimal.nearestPattern (Nat.pow 10 (k + 1) * digits) (-1)) := by
      rw [hdecimal, Decimal.toBinary64]
    _ = .ofPattern negative (Decimal.nearestPattern digits k) := by
      rw [Decimal.nearestPattern_pow_mul, hexponent]
    _ = (Decimal.mk negative digits k).toBinary64 := rfl

/-- Digits on both sides of the point. -/
theorem exists_spelledBody_point (negative : Bool) {digits places : Nat} (hpos : 0 < places)
    (hplaces : places < (Nat.toDigits 10 digits).length) :
    ∃ n : NumberText, n.negative = negative ∧
      n.SpelledBody
        ((Nat.toDigits 10 digits).take ((Nat.toDigits 10 digits).length - places) ++
          '.' :: (Nat.toDigits 10 digits).drop ((Nat.toDigits 10 digits).length - places)) ∧
        n.toDecimal = ⟨negative, digits, -places⟩ := by
  have hdigits := isDigits_toDigits digits
  have hvalue := Numeral.digitsValue_toDigits digits
  have hzero := Numeral.toDigits_eq_of_head? (n := digits)
  -- Nothing but these three facts about the row of digits matters.
  generalize Nat.toDigits 10 digits = ds at *
  let n : NumberText :=
    ⟨negative, ds.take (ds.length - places), some (ds.drop (ds.length - places)), none⟩
  have hwhole : IsDigits n.whole := by
    refine ⟨fun hnil ↦ ?_, fun c hc ↦ hdigits.2 c (List.mem_of_mem_take hc)⟩
    have hlength := congrArg List.length hnil
    simp [n] at hlength
    omega
  have hfraction : IsDigits (ds.drop (ds.length - places)) := by
    refine ⟨fun hnil ↦ ?_, fun c hc ↦ hdigits.2 c (List.mem_of_mem_drop hc)⟩
    have hlength := congrArg List.length hnil
    simp at hlength
    omega
  have hleading : n.whole.head? = some '0' → n.whole = ['0'] := by
    intro hhead
    have hcut : ds.length - places ≠ 0 := Nat.sub_ne_zero_of_lt hplaces
    rw [List.head?_take, if_neg hcut] at hhead
    have hone := congrArg List.length (hzero hhead)
    rw [List.length_singleton] at hone
    omega
  refine ⟨n, rfl, spelledBody_of_fraction hwhole hleading rfl hfraction rfl, ?_⟩
  have hlength : (ds.drop (ds.length - places)).length = places := by
    rw [List.length_drop]
    omega
  simp only [NumberText.toDecimal, n, Option.getD_some, Option.getD_none, List.take_append_drop,
    hvalue, hlength, Int.zero_sub]

/-- Digits behind the point, with zeros in front of them. -/
theorem exists_spelledBody_fraction (negative : Bool) {digits places : Nat}
    (hplaces : (Nat.toDigits 10 digits).length ≤ places) :
    ∃ n : NumberText, n.negative = negative ∧
      n.SpelledBody
        (['0', '.'] ++ List.replicate (places - (Nat.toDigits 10 digits).length) '0' ++
          Nat.toDigits 10 digits) ∧
        n.toDecimal = ⟨negative, digits, -places⟩ := by
  let zeros := List.replicate (places - (Nat.toDigits 10 digits).length) '0'
  let n : NumberText := ⟨negative, ['0'], some (zeros ++ Nat.toDigits 10 digits), none⟩
  have hfraction : IsDigits (zeros ++ Nat.toDigits 10 digits) := by
    refine ⟨List.append_ne_nil_of_right_ne_nil _ Nat.toDigits_ne_nil, ?_⟩
    exact List.forall_mem_append.2
      ⟨fun c hc ↦ isDigit_of_mem_zeros hc, (isDigits_toDigits digits).2⟩
  have hlength : (zeros ++ Nat.toDigits 10 digits).length = places := by
    rw [List.length_append, List.length_replicate]
    omega
  have hvalue : Numeral.digitsValue ('0' :: (zeros ++ Nat.toDigits 10 digits)) = digits :=
    (Numeral.digitsValue_zeros_append _ _).trans (Numeral.digitsValue_toDigits digits)
  refine ⟨n, rfl, ?_, ?_⟩
  · exact spelledBody_of_fraction isDigits_zero (fun _ ↦ rfl) rfl hfraction rfl
  · simp only [NumberText.toDecimal, n, Option.getD_some, Option.getD_none, List.singleton_append,
      hvalue, hlength, Int.zero_sub]

/-- Digits with a point among or beside them are read as the decimal. -/
theorem exists_spelledBody_positional (negative : Bool) {digits : Nat} {exponent : Int}
    (hzero : digits = 0 → exponent = 0) :
    ∃ n : NumberText, n.negative = negative ∧
      n.SpelledBody (positional (Nat.toDigits 10 digits) exponent) ∧
        n.toDecimal.toBinary64 = (Decimal.mk negative digits exponent).toBinary64 := by
  unfold positional
  dsimp only
  by_cases hexponent : 0 ≤ exponent
  · obtain ⟨n, hn, hbody, hread⟩ := exists_spelledBody_whole negative digits exponent.toNat
      fun h ↦ by rw [hzero h, Int.toNat_zero]
    rw [Int.toNat_of_nonneg hexponent] at hread
    rw [if_pos hexponent]
    exact ⟨n, hn, hbody, hread⟩
  · have hplaces : -(((-exponent).toNat : Nat) : Int) = exponent := by omega
    rw [if_neg hexponent]
    split
    · next hlt =>
      obtain ⟨n, hn, hbody, hread⟩ := exists_spelledBody_point negative (by omega) hlt
      rw [hplaces] at hread
      exact ⟨n, hn, hbody, congrArg Decimal.toBinary64 hread⟩
    · next hle =>
      obtain ⟨n, hn, hbody, hread⟩ := exists_spelledBody_fraction negative (Nat.not_lt.1 hle)
      rw [hplaces] at hread
      exact ⟨n, hn, hbody, congrArg Decimal.toBinary64 hread⟩

theorem spelledExponent_intCast (k : Int) :
    SpelledExponent (some k) ('e' :: (if k < 0 then '-' else '+') :: Nat.toDigits 10 k.natAbs) := by
  apply SpelledExponent.some (.inl rfl)
  split
  · next hneg =>
    change (Numeral.natural? (Nat.toDigits 10 k.natAbs)).map (Numeral.applySign true) = some k
    rw [Numeral.natural?_toDigits, Option.map_some, Numeral.applySign, if_pos rfl]
    congr 1
    omega
  · next hpos =>
    change (Numeral.natural? (Nat.toDigits 10 k.natAbs)).map (Numeral.applySign false) = some k
    rw [Numeral.natural?_toDigits, Option.map_some, Numeral.applySign, if_neg (by decide)]
    congr 1
    omega

/-- Digits with a point behind the first and an exponent are read as the decimal. -/
theorem exists_spelledBody_scientific (negative : Bool) (digits : Nat) (exponent : Int) :
    ∃ n : NumberText, n.negative = negative ∧
      n.SpelledBody (scientific (Nat.toDigits 10 digits)
        (exponent + (Nat.toDigits 10 digits).length - 1)) ∧
        n.toDecimal = ⟨negative, digits, exponent⟩ := by
  have hdigits := isDigits_toDigits digits
  have hvalue := Numeral.digitsValue_toDigits digits
  generalize Nat.toDigits 10 digits = ds at *
  have hpower := spelledExponent_intCast (exponent + ds.length - 1)
  obtain ⟨c, rest, rfl⟩ := List.exists_cons_of_ne_nil hdigits.1
  have hleading (hhead : [c].head? = some '0') : [c] = ['0'] := by
    rw [Option.some.inj hhead]
  cases rest with
  | nil =>
    refine ⟨⟨negative, [c], none, some (exponent + [c].length - 1)⟩, rfl, ?_, ?_⟩
    · exact ⟨hdigits, hleading, [], _, .none, hpower, rfl⟩
    · simp [NumberText.toDecimal, hvalue]
  | cons d rest =>
    have hwhole : IsDigits [c] :=
      ⟨List.cons_ne_nil c [], List.forall_mem_singleton.2 (hdigits.2 c List.mem_cons_self)⟩
    have hfraction : IsDigits (d :: rest) :=
      ⟨List.cons_ne_nil d rest, fun c' hc ↦ hdigits.2 c' (List.mem_cons_of_mem c hc)⟩
    refine ⟨⟨negative, [c], some (d :: rest), some (exponent + (c :: d :: rest).length - 1)⟩, rfl,
      ?_, ?_⟩
    · exact ⟨hwhole, hleading, '.' :: d :: rest, _, .some hfraction, hpower, rfl⟩
    · simp [NumberText.toDecimal, hvalue]
      omega

/-- With or without an exponent, digits are read as the decimal. -/
theorem exists_spelledBody (negative : Bool) {digits : Nat} {exponent : Int}
    (hzero : digits = 0 → exponent = 0) :
    let leading := exponent + (Nat.toDigits 10 digits).length - 1
    ∃ n : NumberText, n.negative = negative ∧
      n.SpelledBody
        (if positionalRange.1 ≤ leading ∧ leading ≤ positionalRange.2 then
          positional (Nat.toDigits 10 digits) exponent
        else scientific (Nat.toDigits 10 digits) leading) ∧
        n.toDecimal.toBinary64 = (Decimal.mk negative digits exponent).toBinary64 := by
  intro leading
  split
  · exact exists_spelledBody_positional negative hzero
  · obtain ⟨n, hn, hbody, hread⟩ := exists_spelledBody_scientific negative digits exponent
    exact ⟨n, hn, hbody, congrArg Decimal.toBinary64 hread⟩

/-- The text of a finite number is a number that is read as the same bits. -/
theorem exists_spelled_floatText {x : Binary64} (h : x.isFinite = true) :
    ∃ n : NumberText, n.IsFloat x ∧ Token.Spelled (.number n) (floatText x) := by
  obtain ⟨digits, exponent, hshortest, -, hzero⟩ := Decimal.exists_shortest h
  have hread : (Decimal.mk x.negative digits exponent).toBinary64 = x := by
    rw [← hshortest]
    exact Decimal.toBinary64_shortest h
  unfold floatText
  rw [hshortest]
  obtain ⟨n, hn, hbody, hdecimal⟩ := exists_spelledBody x.negative hzero
  refine ⟨n, ⟨hdecimal.trans hread, h⟩, ?_⟩
  cases hsign : x.negative with
  | true => exact .negative (hn.trans hsign) hbody
  | false => exact .nonnegative (hn.trans hsign) hbody

end Json

end GameShelf
