import GameShelf.Numeral.Decimal
import GameShelf.Proofs.Text.LetterCase

/-!
# Numbers in either letter case

The only letter that a number is written with is that of its exponent, and it may be written in
either case. So a text and its lower case write the same number, or neither of them writes one.
-/

namespace GameShelf

open Text

namespace Numeral

/-- Digits are no letters, so they are their own lower case. -/
theorem map_toLower_of_isDigit {cs : List Char} (h : cs.all Char.isDigit = true) :
    cs.map Char.toLower = cs := by
  calc
    cs.map Char.toLower = cs.map id := by
      apply List.map_congr_left
      intro c hc
      apply toLower_of_not_isAlpha
      intro hletter
      have hdigit := List.all_eq_true.1 h c hc
      rw [isDigit_of_isAlpha hletter] at hdigit
      exact absurd hdigit (by decide)
    _ = cs := List.map_id cs

theorem all_isDigit_map_toLower (cs : List Char) :
    (cs.map Char.toLower).all Char.isDigit = cs.all Char.isDigit := by
  rw [List.all_map, show Char.isDigit ∘ Char.toLower = Char.isDigit from funext isDigit_toLower]

theorem natural?_map_toLower (cs : List Char) :
    natural? (cs.map Char.toLower) = natural? cs := by
  by_cases h : cs.all Char.isDigit = true
  · rw [map_toLower_of_isDigit h]
  · rw [natural?, if_neg (by rw [all_isDigit_map_toLower]; exact fun hall ↦ h hall.2), natural?,
      if_neg fun hall ↦ h hall.2]

theorem takeSign_map_toLower (cs : List Char) :
    takeSign (cs.map Char.toLower) = ((takeSign cs).1, (takeSign cs).2.map Char.toLower) := by
  cases cs with
  | nil => rfl
  | cons c cs =>
    by_cases hminus : c = '-'
    · rw [hminus]
      rfl
    · by_cases hplus : c = '+'
      · rw [hplus]
        rfl
      · have hminus' : ¬ c.toLower = '-' := by rwa [toLower_eq_iff (by decide)]
        have hplus' : ¬ c.toLower = '+' := by rwa [toLower_eq_iff (by decide)]
        simp [takeSign, hminus, hplus, hminus', hplus']

theorem integer?_map_toLower (cs : List Char) :
    integer? (cs.map Char.toLower) = integer? cs := by
  rw [integer?, takeSign_map_toLower]
  exact congrArg (Option.map _) (natural?_map_toLower _)

theorem takeWhile_isDigit_map_toLower (cs : List Char) :
    (cs.map Char.toLower).takeWhile Char.isDigit = cs.takeWhile Char.isDigit := by
  rw [takeWhile_map_toLower isDigit_toLower]
  exact map_toLower_of_isDigit List.all_takeWhile

end Numeral

namespace Decimal

/-- The letter of an exponent may be written in either case. -/
theorem toLower_eq_exponent_iff (c : Char) :
    (c.toLower = 'e' ∨ c.toLower = 'E') ↔ (c = 'e' ∨ c = 'E') := by
  constructor
  · rintro (h | h)
    · by_cases hupper : c.isUpper = true
      · right
        calc
          c = c.toUpper :=
            (Char.toUpper_eq_of_not_isLower (Char.not_isLower_of_isUpper hupper)).symm
          _ = c.toLower.toUpper := (Char.toUpper_toLower_eq_toUpper c).symm
          _ = 'E' := by rw [h]; rfl
      · left
        rwa [Char.toLower_eq_of_not_isUpper hupper] at h
    · have hlower := Char.isUpper_toLower_eq_false c
      rw [h] at hlower
      exact absurd hlower (by decide)
  · rintro (rfl | rfl)
    · exact .inl rfl
    · exact .inl rfl

theorem exponentPart?_map_toLower (cs : List Char) :
    exponentPart? (cs.map Char.toLower) = exponentPart? cs := by
  cases cs with
  | nil => rfl
  | cons c cs =>
    rw [List.map_cons, exponentPart?, exponentPart?, Numeral.integer?_map_toLower]
    simp only [toLower_eq_exponent_iff]

theorem fractionPart_map_toLower (cs : List Char) :
    fractionPart (cs.map Char.toLower) =
      ((fractionPart cs).1, (fractionPart cs).2.map Char.toLower) := by
  cases cs with
  | nil => rfl
  | cons c cs =>
    by_cases hpoint : c = '.'
    · rw [hpoint]
      change ((cs.map Char.toLower).takeWhile Char.isDigit,
        (cs.map Char.toLower).dropWhile Char.isDigit) = _
      rw [Numeral.takeWhile_isDigit_map_toLower, dropWhile_map_toLower isDigit_toLower]
      rfl
    · have hpoint' : ¬ c.toLower = '.' := by rwa [toLower_eq_iff (by decide)]
      simp [fractionPart, hpoint, hpoint']

theorem ofLiteral?_map_toLower (cs : List Char) :
    ofLiteral? (cs.map Char.toLower) = ofLiteral? cs := by
  simp only [ofLiteral?, Numeral.takeSign_map_toLower, Numeral.takeWhile_isDigit_map_toLower,
    dropWhile_map_toLower isDigit_toLower, fractionPart_map_toLower, exponentPart?_map_toLower]

theorem finite?_map_toLower (cs : List Char) :
    finite? (cs.map Char.toLower) = finite? cs := by
  rw [finite?, ofLiteral?_map_toLower, finite?]

end Decimal

end GameShelf
