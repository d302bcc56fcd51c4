import GameShelf.Text.Occurrence

/-!
# Tokens beside other characters

A token does not reach over a character that it does not hold, so it occurs in a text that is
parted by such a character only if it occurs in one of the parts. It is found first where nothing
that comes before shares a character with it.
-/

namespace GameShelf.Text

/-- A token that does not hold a character occurs on one side of it. -/
theorem infix_append_cons_iff {token before rest : List Char} {c : Char} (h : c ∉ token) :
    token <:+: before ++ c :: rest ↔ token <:+: before ∨ token <:+: rest := by
  constructor
  · intro hinfix
    rcases List.infix_append_iff.1 hinfix with hbefore | hrest | ⟨left, right, rfl, hleft, hright⟩
    · exact .inl hbefore
    · rcases List.infix_cons_iff.1 hrest with hprefix | hrest
      · rcases List.prefix_cons_iff.1 hprefix with rfl | ⟨tail, rfl, -⟩
        · exact .inl List.nil_infix
        · exact absurd List.mem_cons_self h
      · exact .inr hrest
    · rcases List.prefix_cons_iff.1 hright with rfl | ⟨tail, rfl, -⟩
      · rw [List.append_nil]
        exact .inl hleft.isInfix
      · exact absurd (List.mem_append_right left List.mem_cons_self) h
  · rintro (hbefore | hrest)
    · exact hbefore.trans (List.prefix_append before _).isInfix
    · exact hrest.trans ((List.suffix_cons c rest).trans (List.suffix_append before _)).isInfix

/-- A token is cut where it stands if none of its characters stands before. -/
theorem cut?_append {token before : List Char} (hne : token ≠ []) (h : ∀ c ∈ before, c ∉ token)
    (rest : List Char) : cut? token (before ++ token ++ rest) = some (before, rest) := by
  obtain ⟨sign, signs, rfl⟩ := List.exists_cons_of_ne_nil hne
  induction before with
  | nil =>
    have hprefix : (sign :: signs).isPrefixOf (sign :: signs ++ rest) = true :=
      List.isPrefixOf_iff_prefix.2 (List.prefix_append _ rest)
    rw [List.nil_append, List.cons_append, cut?, ← List.cons_append, if_pos hprefix,
      List.drop_left]
  | cons c before ih =>
    have hc : c ≠ sign := by
      rintro rfl
      exact h c List.mem_cons_self List.mem_cons_self
    have hprefix : (sign :: signs).isPrefixOf (c :: (before ++ sign :: signs ++ rest)) = false := by
      simp [List.isPrefixOf, hc.symm]
    rw [List.cons_append, List.cons_append, cut?, hprefix]
    rw [ih fun d hd ↦ h d (List.mem_cons_of_mem c hd)]
    rfl

/-- A token that does not occur before a character, and does not hold it, is cut behind it. -/
theorem cut?_append_cons {token before : List Char} {c : Char} (hc : c ∉ token)
    (h : ¬ token <:+: before) (rest : List Char) :
    cut? token (before ++ c :: rest) =
      (cut? token rest).map fun (left, right) ↦ (before ++ c :: left, right) := by
  induction before with
  | nil =>
    have hprefix : ¬ token.isPrefixOf (c :: rest) = true := by
      rw [List.isPrefixOf_iff_prefix, List.prefix_cons_iff]
      rintro (rfl | ⟨tail, rfl, -⟩)
      · exact h List.nil_infix
      · exact hc List.mem_cons_self
    rw [List.nil_append, cut?, if_neg hprefix]
    rfl
  | cons d before ih =>
    have hprefix : ¬ token.isPrefixOf (d :: (before ++ c :: rest)) = true := by
      rw [List.isPrefixOf_iff_prefix, ← List.cons_append]
      intro hprefix
      -- The token ends before the character, or it holds it.
      rcases List.prefix_or_prefix_of_prefix hprefix (List.prefix_append (d :: before) _) with
        hshort | ⟨tail, rfl⟩
      · exact h hshort.isInfix
      · rcases List.prefix_cons_iff.1 ((List.prefix_append_right_inj _).1 hprefix) with
          rfl | ⟨tail, rfl, -⟩
        · rw [List.append_nil] at h
          exact h List.infix_rfl
        · exact hc (List.mem_append_right _ List.mem_cons_self)
    have hbefore : ¬ token <:+: before := fun hwithin ↦
      h (hwithin.trans (List.suffix_cons d before).isInfix)
    rw [List.cons_append, cut?, if_neg hprefix, ih hbefore, Option.map_map]
    rfl

end GameShelf.Text
