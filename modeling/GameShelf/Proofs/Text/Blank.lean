import GameShelf.Text.Blank

/-!
# Stripped texts

A text is stripped when it neither begins nor ends with a blank. Blanks put around a text do not
change its stripped form, and what begins and ends with stripped texts is stripped.
-/

namespace GameShelf.Text

theorem trim_trim (s : String) : trim (trim s) = trim s := by
  rw [trim, toList_trim, strip_strip, trim]

theorem dropWhile_isBlank_eq_nil {cs : List Char} (h : ∀ c ∈ cs, isBlank c = true) :
    cs.dropWhile isBlank = [] := by
  calc
    cs.dropWhile isBlank = (cs ++ []).dropWhile isBlank := by rw [List.append_nil]
    _ = [] := List.dropWhile_append_of_pos h

/-- Blanks around a text do not change its stripped form. -/
theorem strip_append {left cs right : List Char} (hleft : ∀ c ∈ left, isBlank c = true)
    (hright : ∀ c ∈ right, isBlank c = true) : strip (left ++ cs ++ right) = strip cs := by
  have hreverse : ∀ c ∈ right.reverse, isBlank c = true := by
    intro c hc
    exact hright c (List.mem_reverse.1 hc)
  rw [strip, strip, List.append_assoc, List.dropWhile_append_of_pos hleft, List.dropWhile_append]
  split
  · next hempty =>
    rw [dropWhile_isBlank_eq_nil hright, List.isEmpty_iff.1 hempty]
  · rw [List.reverse_append, List.dropWhile_append_of_pos hreverse]

theorem strip_append_left {left cs : List Char} (hleft : ∀ c ∈ left, isBlank c = true) :
    strip (left ++ cs) = strip cs := by
  have h : strip (left ++ cs ++ []) = strip cs := strip_append hleft fun _ hc ↦ nomatch hc
  rwa [List.append_nil] at h

theorem strip_append_right {cs right : List Char} (hright : ∀ c ∈ right, isBlank c = true) :
    strip (cs ++ right) = strip cs := by
  have h : strip ([] ++ cs ++ right) = strip cs := strip_append (fun _ hc ↦ nomatch hc) hright
  rwa [List.nil_append] at h

/-- A text is stripped when there is no blank at either of its ends. -/
theorem strip_eq_self_iff {cs : List Char} :
    strip cs = cs ↔
      cs.dropWhile isBlank = cs ∧ cs.reverse.dropWhile isBlank = cs.reverse := by
  constructor
  · intro h
    -- Stripping removes nothing only if neither of its two steps does.
    have hle : (strip cs).length ≤ (cs.dropWhile isBlank).length := by
      have hsublist := List.dropWhile_sublist isBlank (l := (cs.dropWhile isBlank).reverse)
      rw [strip, List.length_reverse]
      exact Nat.le_trans hsublist.length_le (Nat.le_of_eq List.length_reverse)
    rw [h] at hle
    have hdrop : cs.dropWhile isBlank = cs :=
      (List.dropWhile_sublist isBlank).eq_of_length_le hle
    refine ⟨hdrop, ?_⟩
    rw [strip, hdrop] at h
    exact List.reverse_eq_iff.1 h
  · rintro ⟨hleft, hright⟩
    rw [strip, hleft, hright, List.reverse_reverse]

theorem dropWhile_isBlank_append {cs : List Char} (h : cs.dropWhile isBlank = cs) (hne : cs ≠ [])
    (ds : List Char) : (cs ++ ds).dropWhile isBlank = cs ++ ds := by
  rw [List.dropWhile_append, h, if_neg]
  rwa [List.isEmpty_iff]

/-- What begins and ends with stripped texts is stripped, whatever stands between them. -/
theorem strip_append_of_ends {cs ds : List Char} (hcs : strip cs = cs) (hne : cs ≠ [])
    (hds : strip ds = ds) (hne' : ds ≠ []) (middle : List Char) :
    strip (cs ++ middle ++ ds) = cs ++ middle ++ ds := by
  apply strip_eq_self_iff.2
  constructor
  · rw [List.append_assoc]
    exact dropWhile_isBlank_append (strip_eq_self_iff.1 hcs).1 hne _
  · rw [List.reverse_append]
    exact dropWhile_isBlank_append (strip_eq_self_iff.1 hds).2 (by simpa using hne') _

/-- A text without any blank is stripped. -/
theorem strip_of_forall {cs : List Char} (h : ∀ c ∈ cs, isBlank c = false) : strip cs = cs := by
  have hdrop {ds : List Char} (hds : ∀ c ∈ ds, isBlank c = false) : ds.dropWhile isBlank = ds := by
    cases ds with
    | nil => rfl
    | cons d ds => exact List.dropWhile_cons_of_neg (by simp [hds d List.mem_cons_self])
  apply strip_eq_self_iff.2
  refine ⟨hdrop h, hdrop ?_⟩
  intro c hc
  exact h c (List.mem_reverse.1 hc)

end GameShelf.Text
