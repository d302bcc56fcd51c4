import GameShelf.Proofs.Text.Blank
import GameShelf.Text.Fold
import GameShelf.Text.Occurrence
import Mathlib

/-!
# Texts in lower case

Putting a text in lower case changes its letters only. So it changes nothing about where blanks
stand, and nothing about where a token without letters stands: trimming and cutting a text commute
with it.
-/

namespace GameShelf.Text

/-! ## Characters -/

theorem toLower_of_not_isAlpha {c : Char} (h : ¬ c.isAlpha = true) : c.toLower = c := by
  apply Char.toLower_eq_of_not_isUpper
  intro hupper
  exact h (by simp [Char.isAlpha, hupper])

/-- What takes one value on all letters does not tell a character from its lower case. -/
theorem apply_toLower {α : Type} {f : Char → α} {a : α} (h : ∀ c, c.isAlpha = true → f c = a)
    (c : Char) : f c.toLower = f c := by
  by_cases hc : c.isAlpha = true
  · rw [h c hc, h c.toLower (by rwa [Char.isAlpha_toLower_eq_isAlpha])]
  · rw [toLower_of_not_isAlpha hc]

theorem toNat_bounds_of_isAlpha {c : Char} (h : c.isAlpha = true) :
    0x41 ≤ c.toNat ∧ c.toNat ≤ 0x5A ∨ 0x61 ≤ c.toNat ∧ c.toNat ≤ 0x7A := by
  simpa [Char.isAlpha, Char.isUpper, Char.isLower, UInt32.le_iff_toNat_le] using h

theorem isBlank_of_isAlpha {c : Char} (h : c.isAlpha = true) : isBlank c = false := by
  have hbounds := toNat_bounds_of_isAlpha h
  simp only [isBlank, Bool.or_eq_false_iff, Bool.and_eq_false_iff, decide_eq_false_iff_not,
    beq_eq_false_iff_ne]
  omega

theorem isDigit_of_isAlpha {c : Char} (h : c.isAlpha = true) : c.isDigit = false := by
  have hletter := toNat_bounds_of_isAlpha h
  apply Bool.eq_false_iff.2
  intro hdigit
  have hbounds : 48 ≤ c.toNat ∧ c.toNat ≤ 57 := by
    simpa [Char.isDigit, UInt32.le_iff_toNat_le] using hdigit
  omega

theorem isBlank_toLower (c : Char) : isBlank c.toLower = isBlank c :=
  apply_toLower (fun _ h ↦ isBlank_of_isAlpha h) c

theorem isDigit_toLower (c : Char) : c.toLower.isDigit = c.isDigit :=
  apply_toLower (fun _ h ↦ isDigit_of_isAlpha h) c

/-- A character that is no letter is the lower case of itself alone. -/
theorem toLower_eq_iff {c d : Char} (h : d.isAlpha = false) : c.toLower = d ↔ c = d := by
  constructor
  · rintro rfl
    rw [Char.isAlpha_toLower_eq_isAlpha] at h
    exact (toLower_of_not_isAlpha (Bool.eq_false_iff.1 h)).symm
  · rintro rfl
    exact toLower_of_not_isAlpha (Bool.eq_false_iff.1 h)

/-! ## Blanks -/

theorem dropWhile_map_toLower {p : Char → Bool} (h : ∀ c : Char, p c.toLower = p c)
    (cs : List Char) :
    (cs.map Char.toLower).dropWhile p = (cs.dropWhile p).map Char.toLower := by
  rw [List.dropWhile_map, show p ∘ Char.toLower = p from funext h]

theorem takeWhile_map_toLower {p : Char → Bool} (h : ∀ c : Char, p c.toLower = p c)
    (cs : List Char) :
    (cs.map Char.toLower).takeWhile p = (cs.takeWhile p).map Char.toLower := by
  rw [List.takeWhile_map, show p ∘ Char.toLower = p from funext h]

theorem strip_map_toLower (cs : List Char) :
    strip (cs.map Char.toLower) = (strip cs).map Char.toLower := by
  simp only [strip, dropWhile_map_toLower isBlank_toLower, ← List.map_reverse]

theorem fold_ofList (cs : List Char) :
    fold (String.ofList cs) = String.ofList (cs.map Char.toLower) := by
  rw [fold, String.toList_ofList]

theorem trim_fold (s : String) : trim (fold s) = fold (trim s) := by
  rw [trim, toList_fold, strip_map_toLower, trim, fold_ofList]

@[simp]
theorem fold_fold (s : String) : fold (fold s) = fold s := by
  simp [fold, Function.comp_def]

/-- Texts agree up to letter case if and only if they have the same lower case. -/
theorem equalFold_iff_fold_eq {s t : String} : equalFold s t = true ↔ fold s = fold t := by
  rw [equalFold_iff, fold, fold, String.ofList_inj]

theorem equalFold_fold (s t : String) : equalFold s (fold t) = equalFold s t := by
  rw [Bool.eq_iff_iff, equalFold_iff_fold_eq, equalFold_iff_fold_eq, fold_fold]

/-! ## Tokens without letters -/

section Tokens

variable {token : List Char}

theorem isPrefixOf_map_toLower (h : ∀ c ∈ token, c.isAlpha = false) (cs : List Char) :
    token.isPrefixOf (cs.map Char.toLower) = token.isPrefixOf cs := by
  induction token generalizing cs with
  | nil => rfl
  | cons d token ih =>
    obtain ⟨hd, htoken⟩ := List.forall_mem_cons.1 h
    cases cs with
    | nil => rfl
    | cons c cs =>
      have hc : (d == c.toLower) = (d == c) := by
        rw [Bool.eq_iff_iff, beq_iff_eq, beq_iff_eq, eq_comm, toLower_eq_iff hd, eq_comm]
      rw [List.map_cons, List.isPrefixOf_cons_cons, List.isPrefixOf_cons_cons, hc, ih htoken]

/-- A token without letters is cut from a text where it is cut from its lower case. -/
theorem cut?_map_toLower (h : ∀ c ∈ token, c.isAlpha = false) (cs : List Char) :
    cut? token (cs.map Char.toLower) =
      (cut? token cs).map fun (before, rest) ↦
        (before.map Char.toLower, rest.map Char.toLower) := by
  induction cs with
  | nil =>
    rw [List.map_nil, cut?]
    split
    · rfl
    · rfl
  | cons c cs ih =>
    rw [List.map_cons, cut?, cut?, ← List.map_cons, isPrefixOf_map_toLower h]
    split
    · rw [← List.map_drop]
      rfl
    · rw [ih, Option.map_map, Option.map_map]
      rfl

theorem occurs_map_toLower (h : ∀ c ∈ token, c.isAlpha = false) (cs : List Char) :
    occurs token (cs.map Char.toLower) = occurs token cs := by
  rw [occurs, cut?_map_toLower h, Option.isSome_map, occurs]

theorem splitOnce?_map_toLower (h : ∀ c ∈ token, c.isAlpha = false) (cs : List Char) :
    splitOnce? token (cs.map Char.toLower) =
      (splitOnce? token cs).map fun (before, rest) ↦
        (before.map Char.toLower, rest.map Char.toLower) := by
  rw [splitOnce?, cut?_map_toLower h, Option.filter_map, splitOnce?]
  congr 2
  funext ⟨before, rest⟩
  exact congrArg not (occurs_map_toLower h rest)

end Tokens

end GameShelf.Text
