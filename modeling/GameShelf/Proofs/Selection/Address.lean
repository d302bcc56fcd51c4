import GameShelf.Proofs.Numeral.Digits
import GameShelf.Proofs.Selection.Union
import GameShelf.Proofs.Text.LetterCase

/-!
# Names, numbers and ranges as addresses

What a text stands for that is the name of a candidate, and what one stands for that writes a number
or a range. A number or a range is found only if no name is written like it. The positions of a
range are those of its numbers one after another.
-/

namespace GameShelf

/-! ## Positions -/

namespace Span

variable {α : Type}

@[simp]
theorem slice_all (xs : List α) : (Span.mk 0 xs.length).slice xs = xs := by
  simp [slice]

/-- Positions up to one and from there on. -/
theorem slice_append {a b c : Nat} (hab : a ≤ b) (hbc : b ≤ c) (xs : List α) :
    (Span.mk a b).slice xs ++ (Span.mk b c).slice xs = (Span.mk a c).slice xs := by
  have hdrop : xs.drop b = (xs.drop a).drop (b - a) := by
    rw [List.drop_drop, Nat.add_sub_cancel' hab]
  calc
    (Span.mk a b).slice xs ++ (Span.mk b c).slice xs =
        (xs.drop a).take (b - a) ++ ((xs.drop a).drop (b - a)).take (c - b) := by
      rw [slice, slice, List.drop_take, List.drop_take, hdrop]
    _ = (xs.drop a).take (b - a + (c - b)) := List.take_add.symm
    _ = (Span.mk a c).slice xs := by
      rw [slice, List.drop_take, Nat.add_comm, Nat.sub_add_sub_cancel hbc hab]

theorem slice_one {xs : List α} {i : Nat} (h : i < xs.length) :
    (Span.mk i (i + 1)).slice xs = [xs[i]] := by
  rw [slice, List.drop_take, Nat.add_sub_cancel_left, List.drop_eq_getElem_cons h]
  rfl

/-- The position of the first element that passes a test. -/
theorem slice_of_findIdx? {p : α → Bool} {xs : List α} {i : Nat} (h : xs.findIdx? p = some i) :
    (Span.mk i (i + 1)).slice xs = (xs.find? p).toList := by
  obtain ⟨hi, hpass, hfirst⟩ := List.findIdx?_eq_some_iff_getElem.1 h
  have hfind : xs.find? p = some xs[i] := by
    apply List.find?_eq_some_iff_getElem.2
    refine ⟨hpass, i, hi, rfl, ?_⟩
    intro j hj
    exact Bool.not_eq_eq_eq_not.2 (Bool.eq_false_iff.2 (hfirst j hj))
  rw [slice_one hi, hfind]
  rfl

/-- The positions of consecutive numbers, which count from one, are the positions of their range. -/
theorem flatMap_slice (xs : List α) (start count : Nat) :
    (List.range' (start + 1) count).flatMap (fun number ↦ (Span.mk (number - 1) number).slice xs) =
      (Span.mk start (start + count)).slice xs := by
  induction count with
  | zero => simp [slice]
  | succ count ih =>
    rw [List.range'_1_concat, List.flatMap_append, ih, List.flatMap_singleton, Nat.add_right_comm,
      Nat.add_sub_cancel]
    exact slice_append (Nat.le_add_right start count) (Nat.le_succ _) xs

end Span

namespace Numeral

theorem natural?_replicate_zero {cs : List Char} {n : Nat} (h : natural? cs = some n)
    (count : Nat) : natural? (List.replicate count '0' ++ cs) = some n := by
  induction count with
  | zero => exact h
  | succ count ih =>
    obtain ⟨⟨-, hdigits⟩, hvalue⟩ := natural?_eq_some_iff.1 ih
    rw [List.replicate_succ, List.cons_append, natural?_eq_some_iff]
    refine ⟨⟨List.cons_ne_nil _ _, ?_⟩, hvalue⟩
    exact List.forall_mem_cons.2 ⟨rfl, hdigits⟩

theorem isDigit_of_natural? {cs : List Char} {n : Nat} (h : natural? cs = some n) {c : Char}
    (hc : c ∈ cs) : c.isDigit = true :=
  (natural?_eq_some_iff.1 h).1.2 c hc

theorem isMark_of_natural? {cs : List Char} {n : Nat} (h : natural? cs = some n) {c : Char}
    (hc : c ∈ cs) : isMark c = true :=
  isMark_of_isDigit (isDigit_of_natural? h hc)

/-- What is written with the characters of numbers has no blanks around it. -/
theorem trim_of_isMark {cs : List Char} (h : ∀ c ∈ cs, isMark c = true) :
    Text.trim (String.ofList cs) = String.ofList cs := by
  rw [Text.trim, String.toList_ofList,
    Text.strip_of_forall fun c hc ↦ isBlank_of_isMark (h c hc)]

end Numeral

namespace Address

/-! ## Names -/

theorem position?_eq (name : String) (names : List String) :
    position? (Text.trim name) names =
      names.findIdx? fun candidate ↦ NameKey.ofName candidate = NameKey.ofName name := by
  have hname (candidate : String) : Text.equalFold (Text.trim candidate) (Text.trim name) =
      decide (NameKey.ofName candidate = NameKey.ofName name) := by
    rw [Bool.eq_iff_iff, decide_eq_true_iff, NameKey.ofName_eq_iff]
  rw [position?]
  exact congrArg (List.findIdx? · names) (funext hname)

theorem isWildcard_trim (s : String) : isWildcard (Text.trim s) = isWildcard s := by
  rw [isWildcard, Text.trim_trim, isWildcard]

theorem resolve_of_isWildcard {address : String} (h : isWildcard address = true)
    (names : List String) : resolve address names = .ok .all := by
  rw [resolve, isWildcard_trim, h]
  rfl

/-- A name stands for the first of the names with its key, unless it is the wildcard. -/
theorem resolve_of_mem {name : String} {names : List String} (hwild : isWildcard name = false)
    (h : name ∈ names) :
    ∃ position, resolve name names = .ok (.name position) ∧
      names.findIdx? (fun other ↦ NameKey.ofName other = NameKey.ofName name) = some position := by
  have hfound : (names.findIdx? fun other ↦ NameKey.ofName other = NameKey.ofName name).isSome := by
    rw [List.findIdx?_isSome]
    exact List.any_eq_true.2 ⟨name, h, decide_eq_true rfl⟩
  obtain ⟨position, hposition⟩ := Option.isSome_iff_exists.1 hfound
  refine ⟨position, ?_, hposition⟩
  rw [resolve, isWildcard_trim, hwild, position?_eq, hposition]
  rfl

/-! ## Numbers and ranges -/

/-- A text with a digit is not the wildcard. -/
theorem isWildcard_of_isDigit {cs : List Char} {c : Char} (hc : c ∈ cs)
    (hdigit : c.isDigit = true) : isWildcard (String.ofList cs) = false := by
  have hblank : Text.isBlank c = false :=
    Numeral.isBlank_of_isMark (Numeral.isMark_of_isDigit hdigit)
  have hmem : c.toLower ∈ (Text.trim (String.ofList cs)).toList.map Char.toLower := by
    rw [Text.toList_trim, String.toList_ofList]
    exact List.mem_map_of_mem ((Text.isBlank_or_mem_strip hc).resolve_left (by simp [hblank]))
  apply Bool.eq_false_iff.2
  intro hwild
  have hnot : (wildcard.toList.map Char.toLower).all (fun d ↦ !d.isDigit) = true := by decide
  rw [← Text.equalFold_iff.1 hwild] at hnot
  have hletter := List.all_eq_true.1 hnot c.toLower hmem
  rw [Text.isDigit_toLower, hdigit] at hletter
  exact absurd hletter (by decide)

theorem bounds?_append {xs ys : List Char} {first last : Nat}
    (hxs : Numeral.natural? xs = some first) (hys : Numeral.natural? ys = some last)
    (hfirst : first < UInt64.size) (hlast : last < UInt64.size) :
    bounds? (xs ++ '-' :: ys) = some (first, last) := by
  have hdigits : ∀ c ∈ xs, c.isDigit = true := fun c ↦ Numeral.isDigit_of_natural? hxs
  have htake : (xs ++ '-' :: ys).takeWhile Char.isDigit = xs := by
    rw [List.takeWhile_append_of_pos hdigits, List.takeWhile_cons_of_neg (by decide),
      List.append_nil]
  have hdrop : (xs ++ '-' :: ys).dropWhile Char.isDigit = '-' :: ys := by
    rw [List.dropWhile_append_of_pos hdigits, List.dropWhile_cons_of_neg (by decide)]
  have hblank : ys.dropWhile Text.isBlank = ys := by
    apply (Text.strip_eq_self_iff.1 (Text.strip_of_forall _)).1
    intro c hc
    exact Numeral.isBlank_of_isMark (Numeral.isMark_of_natural? hys hc)
  have hdash : ('-' :: ys).dropWhile Text.isBlank = '-' :: ys :=
    List.dropWhile_cons_of_neg (by decide)
  simp only [bounds?, hdrop, hdash, htake, hxs, hblank, hys]
  exact if_pos ⟨hfirst, hlast⟩

theorem bounds?_of_natural? {cs : List Char} {n : Nat} (h : Numeral.natural? cs = some n) :
    bounds? cs = none := by
  have hdrop : cs.dropWhile Char.isDigit = [] :=
    List.dropWhile_eq_nil_iff.2 fun c ↦ Numeral.isDigit_of_natural? h
  rw [bounds?, hdrop]
  rfl

theorem number?_of_natural? {cs : List Char} {n : Nat} (h : Numeral.natural? cs = some n)
    (hn : (n : Int) ≤ Int64.maxValue.toInt) : number? cs = some (n : Int) := by
  have hmin : Int64.minValue.toInt ≤ (n : Int) :=
    Int.le_trans (by decide) (Int.natCast_nonneg n)
  rw [number?, Numeral.integer?_of_natural? h, Option.filter_some, if_pos]
  exact Bool.and_eq_true_iff.2 ⟨decide_eq_true hmin, decide_eq_true hn⟩

/-- No name is a text, up to letter case and the blanks around it. -/
def Free (text : String) (names : List String) : Prop :=
  ∀ name ∈ names, Text.equalFold (Text.trim name) text = false

instance (text : String) (names : List String) : Decidable (Free text names) :=
  inferInstanceAs (Decidable (∀ name ∈ names, Text.equalFold (Text.trim name) text = false))

def rangeText (first last : Nat) : String :=
  first.repr ++ "-" ++ last.repr

theorem rangeText_eq (first last : Nat) :
    rangeText first last =
      String.ofList (Nat.toDigits 10 first ++ '-' :: Nat.toDigits 10 last) := by
  apply String.toList_injective
  simp [rangeText, Nat.repr]

variable {names : List String}

/-- Two numbers with a dash between them stand for a range, if no name is written like it. -/
theorem resolve_range {xs ys : List Char} {first last : Nat}
    (hfree : Free (String.ofList (xs ++ '-' :: ys)) names)
    (hxs : Numeral.natural? xs = some first) (hys : Numeral.natural? ys = some last)
    (hlast : last < UInt64.size) (hfirst : 1 ≤ first) (hle : first ≤ last)
    (hsize : first ≤ names.length) :
    resolve (String.ofList (xs ++ '-' :: ys)) names =
      .ok (.range first (min last names.length)) := by
  have htrim : Text.trim (String.ofList (xs ++ '-' :: ys)) = String.ofList (xs ++ '-' :: ys) := by
    apply Numeral.trim_of_isMark
    intro c hc
    rcases List.mem_append.1 hc with hc | hc
    · exact Numeral.isMark_of_natural? hxs hc
    · rcases List.mem_cons.1 hc with rfl | hc
      · rfl
      · exact Numeral.isMark_of_natural? hys hc
  have hwild : isWildcard (String.ofList (xs ++ '-' :: ys)) = false := by
    obtain ⟨c, hc⟩ := List.exists_mem_of_ne_nil xs (Numeral.natural?_eq_some_iff.1 hxs).1.1
    exact isWildcard_of_isDigit (List.mem_append_left _ hc) (Numeral.isDigit_of_natural? hxs hc)
  have hposition : position? (String.ofList (xs ++ '-' :: ys)) names = none :=
    List.findIdx?_eq_none_iff.2 hfree
  have hbounds := bounds?_append hxs hys (Nat.lt_of_le_of_lt hle hlast) hlast
  have hrange : ¬ (first = 0 ∨ last < first ∨ names.length < first) := by omega
  rw [resolve, htrim, hwild, hposition, String.toList_ofList, hbounds]
  exact if_neg hrange

/-- Digits stand for the name of a number, if no name is written like them. -/
theorem resolve_index {cs : List Char} {number : Nat} (hfree : Free (String.ofList cs) names)
    (hcs : Numeral.natural? cs = some number) (hmax : (number : Int) ≤ Int64.maxValue.toInt)
    (hfirst : 1 ≤ number) (hsize : number ≤ names.length) :
    resolve (String.ofList cs) names = .ok (.index number) := by
  have htrim : Text.trim (String.ofList cs) = String.ofList cs :=
    Numeral.trim_of_isMark fun c ↦ Numeral.isMark_of_natural? hcs
  have hwild : isWildcard (String.ofList cs) = false := by
    obtain ⟨c, hc⟩ := List.exists_mem_of_ne_nil cs (Numeral.natural?_eq_some_iff.1 hcs).1.1
    exact isWildcard_of_isDigit hc (Numeral.isDigit_of_natural? hcs hc)
  have hposition : position? (String.ofList cs) names = none := List.findIdx?_eq_none_iff.2 hfree
  have hindex : ¬ ((number : Int) < 1 ∨ (names.length : Int) < number) := by omega
  rw [resolve, htrim, hwild, hposition, String.toList_ofList, bounds?_of_natural? hcs,
    number?_of_natural? hcs hmax]
  exact if_neg hindex

end Address

end GameShelf
