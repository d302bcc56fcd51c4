import GameShelf.Proofs.Text.Utf8
import GameShelf.Query.Clause

/-!
# Texts that hold a pattern

The operator `~=` holds between a text and a pattern if the text has a part that is the pattern up
to letter case: a part of the same length in which each character is the one of the pattern, or the
same letter from `A` to `Z` in the other case. Letters outside that range have no other case. The
texts are put in lower case as a whole before one is searched for the other, and it makes no
difference whether characters are searched for or bytes.
-/

namespace GameShelf

namespace Text

/-! ## Texts that agree up to letter case -/

/-- Two characters are the same, or one letter from `A` to `Z` in upper and in lower case. -/
def SameLetter (c d : Char) : Prop :=
  c = d ∨ (c.isUpper = true ∧ d.toNat = c.toNat + 0x20) ∨
    (d.isUpper = true ∧ c.toNat = d.toNat + 0x20)

def SameLetters (s t : String) : Prop :=
  List.Forall₂ SameLetter s.toList t.toList

theorem isUpper_iff {c : Char} : c.isUpper = true ↔ 0x41 ≤ c.toNat ∧ c.toNat ≤ 0x5A := by
  simp [Char.isUpper, UInt32.le_iff_toNat_le]

theorem toNat_toLower (c : Char) :
    c.toLower.toNat = if c.isUpper then c.toNat + 0x20 else c.toNat := by
  split
  · next h =>
    have hbounds := isUpper_iff.1 h
    rw [Char.toLower_eq_of_isUpper h, Char.toNat_ofNat, if_pos (.inl (by omega))]
  · next h => rw [Char.toLower_eq_of_not_isUpper h]

theorem toLower_eq_toLower_iff {c d : Char} : c.toLower = d.toLower ↔ SameLetter c d := by
  rw [← Char.toNat_inj, toNat_toLower, toNat_toLower, SameLetter, ← Char.toNat_inj]
  simp only [isUpper_iff]
  split <;> split <;> omega

/-- Texts agree up to letter case if and only if their characters do. -/
theorem equalFold_iff_sameLetters {s t : String} :
    equalFold s t = true ↔ SameLetters s t := by
  rw [equalFold_iff, ← List.forall₂_eq_eq_eq, List.forall₂_map_left_iff,
    List.forall₂_map_right_iff, SameLetters]
  simp only [toLower_eq_toLower_iff]

/-! ## Parts of a text -/

theorem infix_toList_iff {p s : String} :
    p.toList <:+: s.toList ↔ ∃ before after : String, s = before ++ p ++ after := by
  constructor
  · rintro ⟨before, after, hs⟩
    refine ⟨String.ofList before, String.ofList after, ?_⟩
    rw [← String.toList_inj, String.toList_append, String.toList_append, String.toList_ofList,
      String.toList_ofList, hs]
  · rintro ⟨before, after, rfl⟩
    rw [String.toList_append, String.toList_append]
    exact ⟨before.toList, after.toList, rfl⟩

/-- The lower case of a text has the lower case of a pattern as a part if and only if the text has
a part that agrees with the pattern up to letter case. -/
theorem infix_fold_iff {p s : String} :
    (fold p).toList <:+: (fold s).toList ↔
      ∃ before part after : String, s = before ++ part ++ after ∧ equalFold part p = true := by
  rw [toList_fold, toList_fold, List.infix_map_iff]
  constructor
  · rintro ⟨part, hpart, hp⟩
    rw [← String.toList_ofList (l := part)] at hpart
    obtain ⟨before, after, hs⟩ := infix_toList_iff.1 hpart
    refine ⟨before, String.ofList part, after, hs, ?_⟩
    rw [equalFold_iff, String.toList_ofList, hp]
  · rintro ⟨before, part, after, hs, hpart⟩
    exact ⟨part.toList, infix_toList_iff.2 ⟨before, after, hs⟩, (equalFold_iff.1 hpart).symm⟩

end Text

namespace Operator

variable {s p q : String}

theorem compares_contains_iff :
    contains.compares (.text s) (.text p) = true ↔
      (Text.fold p).toList <:+: (Text.fold s).toList :=
  Text.occurs_iff

/-- A pattern is held in a text if and only if its bytes in lower case stand among those of the
text. -/
theorem compares_contains_iff_bytes :
    contains.compares (.text s) (.text p) = true ↔
      (Text.utf8 p).map Text.foldByte <:+: (Text.utf8 s).map Text.foldByte := by
  rw [compares_contains_iff, ← Text.utf8_infix_iff, Text.utf8_fold, Text.utf8_fold]

/-- What a part of a text holds, the text holds. -/
theorem compares_contains_trans (hp : contains.compares (.text s) (.text p) = true)
    (hq : contains.compares (.text p) (.text q) = true) :
    contains.compares (.text s) (.text q) = true :=
  compares_contains_iff.2 ((compares_contains_iff.1 hq).trans (compares_contains_iff.1 hp))

theorem compares_contains_of_eq (h : eq.compares (.text s) (.text p) = true) :
    contains.compares (.text s) (.text p) = true := by
  have hfold : Text.fold s = Text.fold p := Text.equalFold_iff_fold_eq.1 h
  rw [compares_contains_iff, hfold]

theorem compares_contains_congr {s' p' : String} (hs : Text.SameLetters s' s)
    (hp : Text.SameLetters p' p) :
    contains.compares (.text s') (.text p') = contains.compares (.text s) (.text p) := by
  rw [← Text.equalFold_iff_sameLetters, Text.equalFold_iff_fold_eq] at hs hp
  rw [Bool.eq_iff_iff, compares_contains_iff, compares_contains_iff, hs, hp]

/-- A text holds a pattern if and only if it has a part whose characters are those of the pattern up
to letter case, which is the same for the bytes of both in lower case. So it holds all that it is
equal to; letter case does not matter on either side; and with a pattern it holds every part of
the pattern. -/
theorem compares_contains_iff_exists_part (s p : String) :
    (contains.compares (.text s) (.text p) = true ↔
        ∃ before part after : String,
          s = before ++ part ++ after ∧ Text.SameLetters part p) ∧
      (contains.compares (.text s) (.text p) = true ↔
        (Text.utf8 p).map Text.foldByte <:+: (Text.utf8 s).map Text.foldByte) ∧
      (eq.compares (.text s) (.text p) = true →
        contains.compares (.text s) (.text p) = true) ∧
      (∀ s' p', Text.SameLetters s' s → Text.SameLetters p' p →
        contains.compares (.text s') (.text p') = contains.compares (.text s) (.text p)) ∧
      ∀ q, (∃ before after : String, p = before ++ q ++ after) →
        contains.compares (.text s) (.text p) = true →
          contains.compares (.text s) (.text q) = true := by
  refine ⟨?_, compares_contains_iff_bytes, compares_contains_of_eq, ?_, ?_⟩
  · rw [compares_contains_iff, Text.infix_fold_iff]
    simp only [Text.equalFold_iff_sameLetters]
  · intro s' p' hs hp
    exact compares_contains_congr hs hp
  · rintro q hpart hp
    apply compares_contains_trans hp
    rw [compares_contains_iff, Text.toList_fold, Text.toList_fold]
    exact (Text.infix_toList_iff.2 hpart).map _

/-- A part of a text in other letter case, and a part that it is not: an accented letter has no
other case. -/
theorem compares_contains_iff_exists_part_accents :
    let s := "Café GO Fish"
    Text.SameLetters "é GO F" "é gO f" ∧ s = "Caf" ++ "é GO F" ++ "ish" ∧
      contains.compares (.text s) (.text "é gO f") = true ∧
      (¬ ∃ before part after : String, s = before ++ part ++ after ∧ Text.SameLetters part "CAFÉ") ∧
      Text.SameLetters "cAFé go FISH" s ∧ Text.SameLetters "é Go F" "é gO f" ∧
      contains.compares (.text "cAFé go FISH") (.text "é Go F") = true ∧
      eq.compares (.text s) (.text "café go fish") = true ∧
      contains.compares (.text s) (.text "café go fish") = true ∧
      contains.compares (.text s) (.text "gO") = true := by
  intro s
  have hpart : Text.SameLetters "é GO F" "é gO f" :=
    Text.equalFold_iff_sameLetters.1 (by decide)
  have hsplit : s = "Caf" ++ "é GO F" ++ "ish" := by decide
  have htext : Text.SameLetters "cAFé go FISH" s := Text.equalFold_iff_sameLetters.1 (by decide)
  have hpattern : Text.SameLetters "é Go F" "é gO f" :=
    Text.equalFold_iff_sameLetters.1 (by decide)
  have hequal : eq.compares (.text s) (.text "café go fish") = true := by decide
  obtain ⟨hiff, -, -, hcase, hpieces⟩ := compares_contains_iff_exists_part s "é gO f"
  have hheld := hiff.2 ⟨_, _, _, hsplit, hpart⟩
  refine ⟨hpart, hsplit, hheld, ?_, htext, hpattern, (hcase _ _ htext hpattern).trans hheld,
    hequal, (compares_contains_iff_exists_part s "café go fish").2.2.1 hequal, ?_⟩
  · intro hupper
    exact absurd ((compares_contains_iff_exists_part s "CAFÉ").1.2 hupper) (by decide)
  · exact hpieces "gO" ⟨"é ", " f", by decide⟩ hheld

end Operator

end GameShelf
