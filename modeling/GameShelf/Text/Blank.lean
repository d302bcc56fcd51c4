/-!
# Blanks at the ends of a text

The characters with the Unicode property `White_Space`, and the removal of all of them from both
ends of a text. The property is stable: the table lists the twenty-five code points that have it.
`strip` removes blanks from a list of characters, `trim` from a string.
-/

namespace GameShelf.Text

/-- Whether a character has the Unicode property `White_Space`. -/
def isBlank (c : Char) : Bool :=
  let n := c.toNat
  (0x09 ≤ n && n ≤ 0x0D) || n == 0x20 || n == 0x85 || n == 0xA0 || n == 0x1680 ||
    (0x2000 ≤ n && n ≤ 0x200A) || n == 0x2028 || n == 0x2029 || n == 0x202F || n == 0x205F ||
    n == 0x3000

def strip (cs : List Char) : List Char :=
  ((cs.dropWhile isBlank).reverse.dropWhile isBlank).reverse

def trim (s : String) : String :=
  String.ofList (strip s.toList)

@[simp]
theorem toList_trim (s : String) : (trim s).toList = strip s.toList := by
  simp [trim]

theorem dropWhile_isBlank_idem (cs : List Char) :
    (cs.dropWhile isBlank).dropWhile isBlank = cs.dropWhile isBlank := by
  induction cs with
  | nil => rfl
  | cons c cs ih =>
    rw [List.dropWhile_cons]
    split
    · exact ih
    · next h => rw [List.dropWhile_cons_of_neg h]

/-- A text without leading blanks has none after blanks were removed from its end. -/
theorem dropWhile_isBlank_reverse {cs : List Char} (h : cs.dropWhile isBlank = cs) :
    (cs.reverse.dropWhile isBlank).reverse.dropWhile isBlank =
      (cs.reverse.dropWhile isBlank).reverse := by
  cases hr : (cs.reverse.dropWhile isBlank).reverse with
  | nil => rfl
  | cons d ds =>
    have hsuffix : cs.reverse.dropWhile isBlank <:+ cs.reverse := List.dropWhile_suffix isBlank
    have hprefix : d :: ds <+: cs := by
      simpa [hr] using List.reverse_prefix.2 hsuffix
    obtain ⟨rest, hcs⟩ := hprefix
    have hd : isBlank d ≠ true := by
      intro hb
      rw [← hcs, List.cons_append, List.dropWhile_cons_of_pos hb] at h
      have hl := congrArg List.length h
      have hle := (List.dropWhile_sublist isBlank (l := ds ++ rest)).length_le
      simp only [List.length_cons] at hl
      omega
    rw [List.dropWhile_cons_of_neg hd]

/-- Stripping a text once removes all there is to remove. -/
@[simp]
theorem strip_strip (cs : List Char) : strip (strip cs) = strip cs := by
  have h := dropWhile_isBlank_reverse (dropWhile_isBlank_idem cs)
  unfold strip
  rw [h, List.reverse_reverse, dropWhile_isBlank_idem]

theorem forall_mem_takeWhile_isBlank {c : Char} {cs : List Char}
    (h : c ∈ cs.takeWhile isBlank) : isBlank c = true :=
  List.all_eq_true.1 List.all_takeWhile c h

/-- A text is its stripped form between blanks. -/
theorem exists_eq_append_strip (cs : List Char) :
    ∃ left right : List Char, cs = left ++ strip cs ++ right ∧
      (∀ c ∈ left, isBlank c = true) ∧ ∀ c ∈ right, isBlank c = true := by
  let inner := cs.dropWhile isBlank
  refine ⟨cs.takeWhile isBlank, (inner.reverse.takeWhile isBlank).reverse, ?_, ?_, ?_⟩
  · have hinner : strip cs ++ (inner.reverse.takeWhile isBlank).reverse = inner := by
      rw [strip, ← List.reverse_append, List.takeWhile_append_dropWhile, List.reverse_reverse]
    rw [List.append_assoc, hinner, List.takeWhile_append_dropWhile]
  · intro c hc
    exact forall_mem_takeWhile_isBlank hc
  · intro c hc
    exact forall_mem_takeWhile_isBlank (List.mem_reverse.1 hc)

theorem isBlank_or_mem_strip {c : Char} {cs : List Char} (h : c ∈ cs) :
    isBlank c = true ∨ c ∈ strip cs := by
  obtain ⟨left, right, hcs, hleft, hright⟩ := exists_eq_append_strip cs
  rw [hcs, List.mem_append, List.mem_append] at h
  rcases h with (h | h) | h
  · exact .inl (hleft c h)
  · exact .inr h
  · exact .inl (hright c h)

end GameShelf.Text
