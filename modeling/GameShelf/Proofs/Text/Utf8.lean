import GameShelf.Proofs.Text.LetterCase

/-!
# Bytes of a text

In UTF-8 each character has one byte that begins it, and no byte that continues a character begins
one. So the bytes of a text stand among those of another text only where its characters stand among
the characters. The letters `A` to `Z` are written by one byte each, and no other character has a
byte below `0x80`, so the bytes in lower case are those of the text in lower case.
-/

namespace GameShelf.Text

open String (utf8EncodeChar)

/-! ## Where bytes stand -/

/-- The bytes of a character tell where they end. -/
theorem utf8EncodeChar_append_inj {c d : Char} {xs ys : List UInt8}
    (h : utf8EncodeChar c ++ xs = utf8EncodeChar d ++ ys) : c = d ∧ xs = ys := by
  have hbytes := congrArg List.toByteArray h
  rw [List.toByteArray_append, List.toByteArray_append] at hbytes
  have hread := congrArg (fun bytes ↦ bytes.utf8DecodeChar? 0) hbytes
  simp only [ByteArray.utf8DecodeChar?_utf8EncodeChar_append] at hread
  obtain rfl := Option.some.inj hread
  exact ⟨rfl, List.append_cancel_left h⟩

theorem prefix_of_utf8_flatMap {p s : List Char}
    (h : p.flatMap utf8EncodeChar <+: s.flatMap utf8EncodeChar) : p <+: s := by
  induction p generalizing s with
  | nil => exact List.nil_prefix
  | cons c p ih =>
    obtain ⟨rest, hrest⟩ := h
    cases s with
    | nil => simp [String.utf8EncodeChar_ne_nil] at hrest
    | cons d s =>
      rw [List.flatMap_cons, List.flatMap_cons, List.append_assoc] at hrest
      obtain ⟨rfl, htail⟩ := utf8EncodeChar_append_inj hrest
      exact (List.prefix_cons_inj c).2 (ih ⟨rest, htail⟩)

/-- Only the first byte of a character begins one. -/
theorem eq_nil_of_utf8EncodeChar {c : Char} {front back : List UInt8} {b : UInt8}
    (hb : b.IsUTF8FirstByte) (h : utf8EncodeChar c = front ++ b :: back) : front = [] := by
  have hlength : front.length < (utf8EncodeChar c).length := by
    rw [h, List.length_append, List.length_cons]
    omega
  have hbyte : (utf8EncodeChar c)[front.length] = b := by
    simp [h]
  rw [← hbyte] at hb
  exact List.length_eq_zero_iff.1 (UInt8.isUTF8FirstByte_getElem_utf8EncodeChar.1 hb)

/-- From a byte on that begins a character, the bytes of a text are those of its last characters. -/
theorem exists_suffix_of_isUTF8FirstByte {b : UInt8} {bytes : List UInt8} {s : List Char}
    (hb : b.IsUTF8FirstByte) (h : b :: bytes <:+ s.flatMap utf8EncodeChar) :
    ∃ t, t <:+ s ∧ b :: bytes = t.flatMap utf8EncodeChar := by
  induction s with
  | nil => simp at h
  | cons c s ih =>
    have hlater (h : b :: bytes <:+ s.flatMap utf8EncodeChar) :
        ∃ t, t <:+ c :: s ∧ b :: bytes = t.flatMap utf8EncodeChar := by
      obtain ⟨t, ht, hbytes⟩ := ih h
      exact ⟨t, ht.trans (List.suffix_cons c s), hbytes⟩
    obtain ⟨front, hfront⟩ := h
    rw [List.flatMap_cons] at hfront
    rcases List.append_eq_append_iff.1 hfront with ⟨back, hc, hbytes⟩ | ⟨back, -, hs⟩
    · cases back with
      | nil => exact hlater ⟨[], hbytes⟩
      | cons d back =>
        obtain ⟨rfl, -⟩ := List.cons.inj hbytes
        have hempty := eq_nil_of_utf8EncodeChar hb hc
        refine ⟨c :: s, List.suffix_refl _, ?_⟩
        rw [hbytes, List.flatMap_cons, hc, hempty, List.nil_append]
    · exact hlater ⟨back, hs.symm⟩

/-- The bytes of a text stand among those of another one where its characters do, and nowhere
else. -/
theorem utf8_infix_iff {p s : String} : utf8 p <:+: utf8 s ↔ p.toList <:+: s.toList := by
  unfold utf8
  constructor
  · intro h
    cases hp : p.toList with
    | nil => exact List.nil_infix
    | cons c cs =>
      rw [hp] at h
      obtain ⟨bytes, hprefix, hsuffix⟩ := List.infix_iff_prefix_suffix.1 h
      obtain ⟨b, bs, hc⟩ := List.exists_cons_of_ne_nil (String.utf8EncodeChar_ne_nil (c := c))
      have hb : b.IsUTF8FirstByte := by
        have hfirst := UInt8.isUTF8FirstByte_getElem_zero_utf8EncodeChar (c := c)
        simpa [hc] using hfirst
      obtain ⟨rest, rfl⟩ := hprefix
      rw [List.flatMap_cons, hc, List.cons_append, List.cons_append] at hsuffix
      obtain ⟨t, ht, hbytes⟩ := exists_suffix_of_isUTF8FirstByte hb hsuffix
      have hprefix : (c :: cs).flatMap utf8EncodeChar <+: t.flatMap utf8EncodeChar := by
        rw [← hbytes, List.flatMap_cons, hc]
        exact ⟨rest, rfl⟩
      exact (prefix_of_utf8_flatMap hprefix).isInfix.trans ht.isInfix
  · rintro ⟨before, after, hs⟩
    rw [← hs, List.flatMap_append, List.flatMap_append]
    exact ⟨_, _, rfl⟩

/-! ## Bytes in lower case -/

theorem map_foldByte_of_forall {bytes : List UInt8} (h : ∀ b ∈ bytes, 0x80 ≤ b) :
    bytes.map foldByte = bytes := by
  have hfold : ∀ b ∈ bytes, foldByte b = id b := by
    intro b hb
    apply if_neg
    rintro ⟨-, hle⟩
    exact absurd (UInt8.le_trans (h b hb) hle) (by decide)
  rw [List.map_congr_left hfold, List.map_id]

theorem le_ofNat {n : Nat} (h : 0x80 ≤ n) (hlt : n < 0x100) : 0x80 ≤ UInt8.ofNat n := by
  rw [UInt8.le_iff_toNat_le, UInt8.toNat_ofNat_of_lt' hlt]
  exact h

theorem le_of_mem_utf8EncodeChar {c : Char} (h : 0x80 ≤ c.toNat) {b : UInt8}
    (hb : b ∈ utf8EncodeChar c) : 0x80 ≤ b := by
  have hval : ¬ c.val.toNat ≤ 0x7F := Nat.not_le.2 h
  rw [utf8EncodeChar, if_neg hval] at hb
  split_ifs at hb <;> simp only [List.mem_cons, List.not_mem_nil, or_false] at hb
  · rcases hb with rfl | rfl <;> exact le_ofNat (by omega) (by omega)
  · rcases hb with rfl | rfl | rfl <;> exact le_ofNat (by omega) (by omega)
  · rcases hb with rfl | rfl | rfl | rfl <;> exact le_ofNat (by omega) (by omega)

/-- A character is written in lower case by its bytes in lower case. -/
theorem map_foldByte_utf8EncodeChar (c : Char) :
    (utf8EncodeChar c).map foldByte = utf8EncodeChar c.toLower := by
  by_cases h : c.toNat < 0x80
  · have hall : ∀ n < 0x80, (utf8EncodeChar (Char.ofNat n)).map foldByte =
        utf8EncodeChar (Char.ofNat n).toLower := by
      decide +kernel
    rw [← Char.ofNat_toNat c]
    exact hall _ h
  · have hletter : ¬ c.isAlpha = true := by
      intro halpha
      have hbounds := toNat_bounds_of_isAlpha halpha
      omega
    rw [toLower_of_not_isAlpha hletter]
    apply map_foldByte_of_forall
    intro b
    exact le_of_mem_utf8EncodeChar (by omega)

theorem utf8_fold (s : String) : utf8 (fold s) = (utf8 s).map foldByte := by
  unfold utf8
  rw [toList_fold, List.map_flatMap, List.flatMap_map]
  exact List.flatMap_congr fun c _ ↦ (map_foldByte_utf8EncodeChar c).symm

end GameShelf.Text
