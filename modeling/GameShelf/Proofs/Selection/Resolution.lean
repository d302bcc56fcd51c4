import GameShelf.Proofs.Numeral.Grammar
import GameShelf.Proofs.Selection.Address

/-!
# What a text stands for in a list of names

The forms of an address overlap: a name may be written like a range or a number, and the wildcard
like a name. The forms are tried one after another, and a text stands for what the first form that
fits it says. A range may end beyond the list and is cut off there, but it begins within the list,
as does a number; what begins elsewhere is an error that tells the numbers as they were written. So
what a text stands for is never beyond the list, and never nothing.
-/

namespace GameShelf

theorem Text.isDigit_of_isBlank {c : Char} (h : isBlank c = true) : c.isDigit = false := by
  apply Bool.eq_false_iff.2
  intro hdigit
  rw [Numeral.isBlank_of_isMark (Numeral.isMark_of_isDigit hdigit)] at h
  exact absurd h (by decide)

namespace Address

/-! ## Forms -/

/-- Two numbers of at most 64 bits with a dash between them, and blanks around the dash only. -/
inductive IsRange : List Char → Nat → Nat → Prop where
  | mk {xs left right ys : List Char} {first last : Nat} (hfirst : Numeral.Writes xs first)
      (hleft : ∀ c ∈ left, Text.isBlank c = true) (hright : ∀ c ∈ right, Text.isBlank c = true)
      (hlast : Numeral.Writes ys last) (hsize : first < UInt64.size ∧ last < UInt64.size) :
      IsRange (xs ++ left ++ '-' :: (right ++ ys)) first last

/-- A number of at most 64 bits, perhaps with a sign. -/
structure IsNumber (cs : List Char) (n : Int) : Prop where
  writes : Numeral.WritesSigned cs n
  size : Int64.minValue.toInt ≤ n ∧ n ≤ Int64.maxValue.toInt

/-- A text that is neither the wildcard nor a name. -/
structure Unnamed (text : String) (names : List String) : Prop where
  not_wildcard : Text.equalFold text wildcard = false
  free : Free text names

/-- What a text without blanks around it stands for. The forms come one after another: each holds
only of texts that the forms before it do not fit. -/
inductive StandsFor (text : String) (names : List String) :
    Except SelectionError Address → Prop where
  | all (h : Text.equalFold text wildcard = true) : StandsFor text names (.ok .all)
  | name {position : Nat} (hwild : Text.equalFold text wildcard = false)
      (hsize : position < names.length)
      (hname : Text.equalFold (Text.trim names[position]) text = true)
      (hfirst : Free text (names.take position)) : StandsFor text names (.ok (.name position))
  | range {first last : Nat} (h : Unnamed text names) (hrange : IsRange text.toList first last)
      (hbounds : 1 ≤ first ∧ first ≤ last ∧ first ≤ names.length) :
      StandsFor text names (.ok (.range first (min last names.length)))
  | invalidRange {first last : Nat} (h : Unnamed text names)
      (hrange : IsRange text.toList first last)
      (hbounds : ¬ (1 ≤ first ∧ first ≤ last ∧ first ≤ names.length)) :
      StandsFor text names (.error (.invalidRange first last names.length))
  | index {number : Nat} (h : Unnamed text names)
      (hrange : ∀ first last, ¬ IsRange text.toList first last)
      (hnumber : IsNumber text.toList number) (hbounds : 1 ≤ number ∧ number ≤ names.length) :
      StandsFor text names (.ok (.index number))
  | indexOutOfRange {n : Int} (h : Unnamed text names)
      (hrange : ∀ first last, ¬ IsRange text.toList first last)
      (hnumber : IsNumber text.toList n) (hbounds : ¬ (1 ≤ n ∧ n ≤ names.length)) :
      StandsFor text names (.error (.indexOutOfRange n names.length))
  | notFound (h : Unnamed text names) (hrange : ∀ first last, ¬ IsRange text.toList first last)
      (hnumber : ∀ n, ¬ IsNumber text.toList n) :
      StandsFor text names (.error (.notFound text))

/-! ## Finding the forms -/

theorem position?_eq_some_iff {text : String} {names : List String} {position : Nat} :
    position? text names = some position ↔ ∃ h : position < names.length,
      Text.equalFold (Text.trim names[position]) text = true ∧
        Free text (names.take position) := by
  have hfree : Free text (names.take position) ↔
      ∀ i, ∀ hi : i < position, ∀ hsize : i < names.length,
        Text.equalFold (Text.trim names[i]) text = false := by
    simp only [Free, List.mem_take_iff_getElem]
    constructor
    · intro h i hi hsize
      exact h _ ⟨i, by omega, rfl⟩
    · rintro h _ ⟨i, hi, rfl⟩
      exact h i (by omega) (by omega)
  rw [position?, List.findIdx?_eq_some_iff_getElem]
  constructor
  · rintro ⟨hsize, hname, hfirst⟩
    exact ⟨hsize, hname, hfree.2 fun i hi _ ↦ Bool.eq_false_iff.2 (hfirst i hi)⟩
  · rintro ⟨hsize, hname, hfirst⟩
    exact ⟨hsize, hname, fun i hi ↦ Bool.eq_false_iff.1 (hfree.1 hfirst i hi (by omega))⟩

theorem position?_eq_none_iff {text : String} {names : List String} :
    position? text names = none ↔ Free text names :=
  List.findIdx?_eq_none_iff

theorem isRange_of_bounds? {cs : List Char} {first last : Nat}
    (h : bounds? cs = some (first, last)) : IsRange cs first last := by
  unfold bounds? at h
  split at h
  · next rest hdash =>
    split at h
    · next x y hx hy =>
      split at h
      · next hsize =>
        cases h
        have hleft : cs.dropWhile Char.isDigit =
            (cs.dropWhile Char.isDigit).takeWhile Text.isBlank ++ '-' :: rest := by
          rw [← hdash, List.takeWhile_append_dropWhile]
        have hright : rest = rest.takeWhile Text.isBlank ++ rest.dropWhile Text.isBlank :=
          List.takeWhile_append_dropWhile.symm
        have hcs : cs = cs.takeWhile Char.isDigit ++
            (cs.dropWhile Char.isDigit).takeWhile Text.isBlank ++
              '-' :: (rest.takeWhile Text.isBlank ++ rest.dropWhile Text.isBlank) := by
          rw [← hright, List.append_assoc, ← hleft, List.takeWhile_append_dropWhile]
        rw [hcs]
        exact .mk (Numeral.natural?_eq_some_iff_writes.1 hx)
          (fun _ ↦ Text.forall_mem_takeWhile_isBlank) (fun _ ↦ Text.forall_mem_takeWhile_isBlank)
          (Numeral.natural?_eq_some_iff_writes.1 hy) hsize
      · cases h
    · cases h
  · cases h

theorem IsRange.bounds? {cs : List Char} {first last : Nat} (h : IsRange cs first last) :
    bounds? cs = some (first, last) := by
  obtain @⟨xs, left, right, ys, _, _, hfirst, hleft, hright, hlast, hsize⟩ := h
  -- No blank is a digit, and neither is the dash, so the digits of each number end where it does.
  have hdash : (left ++ '-' :: (right ++ ys)).takeWhile Char.isDigit = [] ∧
      (left ++ '-' :: (right ++ ys)).dropWhile Char.isDigit =
        left ++ '-' :: (right ++ ys) := by
    cases left with
    | nil => exact ⟨rfl, rfl⟩
    | cons c left =>
      have hc : ¬ c.isDigit = true := by
        rw [Text.isDigit_of_isBlank (hleft c List.mem_cons_self)]
        decide
      exact ⟨List.takeWhile_cons_of_neg hc, List.dropWhile_cons_of_neg hc⟩
  have hys : ys.dropWhile Text.isBlank = ys := by
    apply (Text.strip_eq_self_iff.1 (Text.strip_of_forall _)).1
    intro c hc
    exact Numeral.isBlank_of_isMark (Numeral.isMark_of_isDigit (hlast.isDigit c hc))
  unfold Address.bounds?
  rw [List.append_assoc, List.takeWhile_append_of_pos hfirst.isDigit,
    List.dropWhile_append_of_pos hfirst.isDigit, hdash.1, hdash.2, List.append_nil,
    List.dropWhile_append_of_pos hleft, List.dropWhile_cons_of_neg (by decide)]
  simp only [Numeral.natural?_eq_some_iff_writes.2 hfirst,
    List.dropWhile_append_of_pos hright, hys, Numeral.natural?_eq_some_iff_writes.2 hlast]
  exact if_pos hsize

theorem bounds?_eq_some_iff {cs : List Char} {first last : Nat} :
    bounds? cs = some (first, last) ↔ IsRange cs first last :=
  ⟨isRange_of_bounds?, IsRange.bounds?⟩

theorem bounds?_eq_none_iff {cs : List Char} :
    bounds? cs = none ↔ ∀ first last, ¬ IsRange cs first last := by
  simp only [Option.eq_none_iff_forall_ne_some, Prod.forall, ne_eq, bounds?_eq_some_iff]

theorem number?_eq_some_iff {cs : List Char} {n : Int} :
    number? cs = some n ↔ IsNumber cs n := by
  rw [number?, Option.filter_eq_some_iff, Numeral.integer?_eq_some_iff_writesSigned,
    Bool.and_eq_true, decide_eq_true_iff, decide_eq_true_iff]
  exact ⟨fun h ↦ ⟨h.1, h.2⟩, fun h ↦ ⟨h.writes, h.size⟩⟩

theorem number?_eq_none_iff {cs : List Char} : number? cs = none ↔ ∀ n, ¬ IsNumber cs n := by
  simp only [Option.eq_none_iff_forall_ne_some, ne_eq, number?_eq_some_iff]

/-! ## Trying the forms -/

variable {address : String} {names : List String}

theorem isWildcard_eq (address : String) :
    isWildcard (Text.trim address) = Text.equalFold (Text.trim address) wildcard := by
  rw [isWildcard, Text.trim_trim]

/-- A text stands for what it is resolved to. -/
theorem standsFor_resolve (address : String) (names : List String) :
    StandsFor (Text.trim address) names (resolve address names) := by
  unfold resolve
  dsimp only
  rw [isWildcard_eq]
  split
  · next hwild => exact .all hwild
  · next hwild =>
    have hwild := Bool.eq_false_iff.2 hwild
    split
    · next position hposition =>
      obtain ⟨hsize, hname, hfirst⟩ := position?_eq_some_iff.1 hposition
      exact .name hwild hsize hname hfirst
    · next hposition =>
      have hunnamed : Unnamed (Text.trim address) names :=
        ⟨hwild, position?_eq_none_iff.1 hposition⟩
      split
      · next first last hbounds =>
        have hrange := bounds?_eq_some_iff.1 hbounds
        split
        · exact .invalidRange hunnamed hrange (by omega)
        · exact .range hunnamed hrange (by omega)
      · next hbounds =>
        have hrange := bounds?_eq_none_iff.1 hbounds
        split
        · next n hn =>
          have hnumber := number?_eq_some_iff.1 hn
          split
          · exact .indexOutOfRange hunnamed hrange hnumber (by omega)
          · next hbounds =>
            have hnat : (n.toNat : Int) = n := Int.toNat_of_nonneg (by omega)
            exact .index hunnamed hrange (hnat.symm ▸ hnumber) (by omega)
        · next hn => exact .notFound hunnamed hrange (number?_eq_none_iff.1 hn)

/-- A text is resolved to all that it stands for. -/
theorem StandsFor.resolve_eq {result : Except SelectionError Address}
    (h : StandsFor (Text.trim address) names result) : resolve address names = result := by
  cases h with
  | all hwild =>
    rw [resolve, isWildcard_eq, hwild]
    rfl
  | name hwild hsize hname hfirst =>
    rw [resolve, isWildcard_eq, hwild, position?_eq_some_iff.2 ⟨hsize, hname, hfirst⟩]
    rfl
  | @range first last h hrange hbounds =>
    have hinside : ¬ (first = 0 ∨ last < first ∨ names.length < first) := by omega
    rw [resolve, isWildcard_eq, h.not_wildcard, position?_eq_none_iff.2 h.free, hrange.bounds?]
    exact if_neg hinside
  | @invalidRange first last h hrange hbounds =>
    have houtside : first = 0 ∨ last < first ∨ names.length < first := by omega
    rw [resolve, isWildcard_eq, h.not_wildcard, position?_eq_none_iff.2 h.free, hrange.bounds?]
    exact if_pos houtside
  | @index number h hrange hnumber hbounds =>
    have hinside : ¬ ((number : Int) < 1 ∨ (names.length : Int) < number) := by omega
    rw [resolve, isWildcard_eq, h.not_wildcard, position?_eq_none_iff.2 h.free,
      bounds?_eq_none_iff.2 hrange, number?_eq_some_iff.2 hnumber]
    exact if_neg hinside
  | @indexOutOfRange n h hrange hnumber hbounds =>
    have houtside : n < 1 ∨ (names.length : Int) < n := by omega
    rw [resolve, isWildcard_eq, h.not_wildcard, position?_eq_none_iff.2 h.free,
      bounds?_eq_none_iff.2 hrange, number?_eq_some_iff.2 hnumber]
    exact if_pos houtside
  | notFound h hrange hnumber =>
    rw [resolve, isWildcard_eq, h.not_wildcard, position?_eq_none_iff.2 h.free,
      bounds?_eq_none_iff.2 hrange, number?_eq_none_iff.2 hnumber]
    rfl

/-! ## Positions -/

/-- What stands for something in a list stands for one position of it or more. Only the wildcard
stands for something in the list without names. -/
theorem StandsFor.span_bounds {text : String} {a : Address} (h : StandsFor text names (.ok a)) :
    (names = [] → a = .all) ∧ (names ≠ [] →
      (a.span names.length).start < (a.span names.length).stop ∧
        (a.span names.length).stop ≤ names.length) := by
  have hempty {k : Nat} (hk : k < names.length) : names ≠ [] :=
    List.ne_nil_of_length_pos (Nat.zero_lt_of_lt hk)
  cases h with
  | all => exact ⟨fun _ ↦ rfl, fun hne ↦ ⟨List.length_pos_of_ne_nil hne, Nat.le_refl _⟩⟩
  | name _ hsize =>
    exact ⟨fun hnil ↦ absurd hnil (hempty hsize), fun _ ↦ ⟨Nat.lt_succ_self _, hsize⟩⟩
  | @range first last _ _ hbounds =>
    refine ⟨fun hnil ↦ absurd hnil (hempty (k := first - 1) (by omega)), fun _ ↦ ?_⟩
    simp only [span]
    omega
  | @index number _ _ _ hbounds =>
    refine ⟨fun hnil ↦ absurd hnil (hempty (k := number - 1) (by omega)), fun _ ↦ ?_⟩
    simp only [span]
    omega

/-- An address is resolved to what its text stands for, and to nothing else. When that is something,
it is one position of the list or more, and every one of them is in the list. -/
theorem resolve_eq_iff_standsFor (address : String) (names : List String) :
    (∀ result, resolve address names = result ↔ StandsFor (Text.trim address) names result) ∧
      ∀ a, resolve address names = .ok a →
        (names = [] → a = .all) ∧ (names ≠ [] →
          (a.span names.length).start < (a.span names.length).stop ∧
            (a.span names.length).stop ≤ names.length) := by
  have hiff (result : Except SelectionError Address) :
      resolve address names = result ↔ StandsFor (Text.trim address) names result := by
    constructor
    · rintro rfl
      exact standsFor_resolve address names
    · exact StandsFor.resolve_eq
  exact ⟨hiff, fun a h ↦ ((hiff _).1 h).span_bounds⟩

/-- A name hides the range that is written like it, but not the same range with a zero before it,
which ends with the list. Digits of another script write no number. -/
theorem resolve_eq_iff_standsFor_lookalikes :
    let names := ["2-9", "Go", "Risk"]
    StandsFor (Text.trim " 2-9") names (.ok (.name 0)) ∧
      StandsFor (Text.trim "02 - 9") names (.ok (.range 2 3)) ∧
      StandsFor (Text.trim "２-9 ") names (.error (.notFound "２-9")) ∧
      resolve "02 - 9" names = .ok (.range 2 3) ∧
      ((Address.range 2 3).span names.length).start < ((Address.range 2 3).span names.length).stop ∧
      ((Address.range 2 3).span names.length).stop ≤ names.length := by
  intro names
  have hrange : resolve "02 - 9" names = .ok (.range 2 3) := by decide +kernel
  have hspan := (resolve_eq_iff_standsFor "02 - 9" names).2 _ hrange
  refine ⟨?_, ?_, ?_, hrange, hspan.2 (List.cons_ne_nil _ _)⟩
  · exact ((resolve_eq_iff_standsFor " 2-9" names).1 _).1 (by decide +kernel)
  · exact ((resolve_eq_iff_standsFor "02 - 9" names).1 _).1 hrange
  · exact ((resolve_eq_iff_standsFor "２-9 " names).1 _).1 (by decide +kernel)

end Address

end GameShelf
