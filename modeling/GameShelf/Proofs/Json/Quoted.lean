import GameShelf.Json.Quoted
import GameShelf.Proofs.Json.Grammar
import Mathlib.Tactic.SplitIfs

/-!
# Written strings are strings

The text of a string spells one piece for each character, and the pieces are decoded to the
characters. A control character that no letter writes is the only one that is spelled as a code
unit, and such a unit is not half of a pair.
-/

namespace GameShelf.Json

def writtenPiece (c : Char) : Piece :=
  if c.toNat < 0x20 ∧ c ∉ ['\x08', '\t', '\n', '\x0c', '\r'] then .unit c.toNat else .char c

theorem spelled_escapedControl {c : Char} (h : c.toNat < 0x20) :
    (Piece.unit c.toNat).Spelled (escapedControl c) := by
  have hdigits : ∀ n < 0x20,
      ['\\', 'u'] ++ List.replicate (4 - (Nat.toDigits 16 n).length) '0' ++ Nat.toDigits 16 n =
        ['\\', 'u', '0', '0', Nat.digitChar (n / 16), Nat.digitChar (n % 16)] ∧
      unit? '0' '0' (Nat.digitChar (n / 16)) (Nat.digitChar (n % 16)) = some n := by
    decide +kernel
  rw [escapedControl, (hdigits c.toNat h).1]
  exact .unit (hdigits c.toNat h).2

/-- A character that a letter writes is a piece as it stands. -/
theorem spelled_escape {letter c : Char} (h : escaped? letter = some c) :
    (writtenPiece c).Spelled ['\\', letter] := by
  have hpiece : writtenPiece c = .char c := by
    unfold escaped? at h
    split at h <;> cases h <;> rfl
  rw [hpiece]
  exact .escape h

theorem spelled_stringChar (c : Char) : (writtenPiece c).Spelled (stringChar c) := by
  unfold stringChar
  split_ifs with hquote hb ht hn hf hr hcontrol
  · rcases hquote with rfl | rfl <;> exact spelled_escape rfl
  · exact hb ▸ spelled_escape rfl
  · exact ht ▸ spelled_escape rfl
  · exact hn ▸ spelled_escape rfl
  · exact hf ▸ spelled_escape rfl
  · exact hr ▸ spelled_escape rfl
  · rw [writtenPiece, if_pos ⟨hcontrol, by simp [hb, ht, hn, hf, hr]⟩]
    exact spelled_escapedControl hcontrol
  · rw [not_or] at hquote
    rw [writtenPiece, if_neg fun h ↦ hcontrol h.1]
    exact .plain (Nat.not_lt.1 hcontrol) hquote.1 hquote.2

theorem spelledPieces_flatMap (cs : List Char) :
    SpelledPieces (cs.map writtenPiece) (cs.flatMap stringChar) := by
  induction cs with
  | nil => exact .nil
  | cons c cs ih => exact .cons (spelled_stringChar c) ih

/-- The text of a string is a string of the written pieces. -/
theorem spelled_stringText (cs : List Char) :
    Token.Spelled (.string (cs.map writtenPiece)) (stringText cs) :=
  .string (spelledPieces_flatMap cs)

theorem text?_unit_cons {n : Nat} (h : n < 0xD800) (pieces : List Piece) :
    text? (.unit n :: pieces) = (text? pieces).map (Char.ofNat n :: ·) := by
  have hleading : isLeading n = false := by
    simp [isLeading]
    omega
  have htrailing : isTrailing n = false := by
    simp [isTrailing]
    omega
  cases pieces with
  | nil => simp [text?, hleading, htrailing]
  | cons piece pieces => cases piece <;> simp [text?, hleading, htrailing]

/-- The written pieces are decoded to the characters. -/
theorem text?_map_writtenPiece (cs : List Char) : text? (cs.map writtenPiece) = some cs := by
  induction cs with
  | nil => rfl
  | cons c cs ih =>
    rw [List.map_cons, writtenPiece]
    split
    · next h =>
      rw [text?_unit_cons (by omega), ih, Option.map_some, Char.ofNat_toNat]
    · rw [text?, ih, Option.map_some]

end GameShelf.Json
