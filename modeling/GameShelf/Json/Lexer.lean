import GameShelf.Json.Token

/-!
# From JSON text to its tokens

`tokens` cuts a text into its tokens. What is left behind a token is shorter than what was there
before it, so the cutting ends.
-/

namespace GameShelf.Json

theorem length_lt_of_stringPieces? {cs rest : List Char} {pieces : List Piece}
    (h : stringPieces? cs = some (pieces, rest)) : rest.length < cs.length := by
  fun_induction stringPieces? cs generalizing pieces rest with
  | case1 => simp at h
  | case2 => simp_all
  | case3 => simp at h
  | case4 a b c d r n hn ih =>
    obtain ⟨⟨p, q⟩, hp, hq⟩ := Option.map_eq_some_iff.1 h
    simp only [Prod.mk.injEq] at hq
    have := ih (hq.2 ▸ hp)
    simp only [List.length_cons]
    omega
  | case5 => simp at h
  | case6 c r hc e he ih =>
    obtain ⟨⟨p, q⟩, hp, hq⟩ := Option.map_eq_some_iff.1 h
    simp only [Prod.mk.injEq] at hq
    have := ih (hq.2 ▸ hp)
    simp only [List.length_cons]
    omega
  | case7 => simp at h
  | case8 c r hq hu hb hc ih =>
    obtain ⟨⟨p, q⟩, hp, hq⟩ := Option.map_eq_some_iff.1 h
    simp only [Prod.mk.injEq] at hq
    have := ih (hq.2 ▸ hp)
    simp only [List.length_cons]
    omega

theorem length_lt_of_digits? {cs digits rest : List Char} (h : digits? cs = some (digits, rest)) :
    rest.length < cs.length := by
  have hl := congrArg List.length (List.takeWhile_append_dropWhile (p := Char.isDigit) (l := cs))
  simp only [List.length_append] at hl
  simp only [digits?] at h
  split at h
  · simp at h
  · next hd =>
    simp only [Option.some.injEq, Prod.mk.injEq] at h
    have : (cs.takeWhile Char.isDigit).length ≠ 0 := by simpa using hd
    rw [← h.2]
    omega

theorem length_le_of_fractionPart? {cs rest : List Char} {f : Option (List Char)}
    (h : fractionPart? cs = some (f, rest)) : rest.length ≤ cs.length := by
  unfold fractionPart? at h
  split at h
  · obtain ⟨⟨d, r⟩, hd, hr⟩ := Option.map_eq_some_iff.1 h
    simp only [Prod.mk.injEq] at hr
    have := length_lt_of_digits? hd
    simp only [List.length_cons, ← hr.2]
    omega
  · simp_all

theorem length_takeSign_le (cs : List Char) : (Numeral.takeSign cs).2.length ≤ cs.length := by
  unfold Numeral.takeSign
  split <;> simp

theorem length_le_of_exponentPart? {cs rest : List Char} {e : Option Int}
    (h : exponentPart? cs = some (e, rest)) : rest.length ≤ cs.length := by
  cases cs with
  | nil => simp_all [exponentPart?]
  | cons c cs =>
    simp only [exponentPart?] at h
    split at h
    · obtain ⟨⟨d, r⟩, hd, hr⟩ := Option.map_eq_some_iff.1 h
      simp only [Prod.mk.injEq] at hr
      have := length_lt_of_digits? hd
      have := length_takeSign_le cs
      simp only [List.length_cons, ← hr.2]
      omega
    · simp_all

theorem length_lt_of_number? {negative : Bool} {cs rest : List Char} {n : NumberText}
    (h : number? negative cs = some (n, rest)) : rest.length < cs.length := by
  simp only [number?, Option.bind_eq_bind, Option.bind_eq_some_iff, Option.pure_def,
    Option.some.injEq, Prod.mk.injEq, Prod.exists] at h
  obtain ⟨w, r, hw, f, r', hf, e, r'', he, -, rfl⟩ := h
  have h₁ := length_lt_of_digits? (Option.filter_eq_some_iff.1 hw).1
  have h₂ := length_le_of_fractionPart? hf
  have h₃ := length_le_of_exponentPart? he
  omega

/-- A token has at least one character. -/
theorem length_lt_of_token? {cs rest : List Char} {t : Token} (h : token? cs = some (t, rest)) :
    rest.length < cs.length := by
  unfold token? at h
  split at h
  case h_10 =>
    obtain ⟨⟨p, q⟩, hp, hq⟩ := Option.map_eq_some_iff.1 h
    simp only [Prod.mk.injEq] at hq
    have := length_lt_of_stringPieces? (hq.2 ▸ hp)
    simp only [List.length_cons]
    omega
  case h_11 =>
    obtain ⟨⟨p, q⟩, hp, hq⟩ := Option.map_eq_some_iff.1 h
    simp only [Prod.mk.injEq] at hq
    have := length_lt_of_number? (hq.2 ▸ hp)
    simp only [List.length_cons]
    omega
  case h_12 =>
    obtain ⟨⟨p, q⟩, hp, hq⟩ := Option.map_eq_some_iff.1 h
    simp only [Prod.mk.injEq] at hq
    exact length_lt_of_number? (hq.2 ▸ hp)
  all_goals
    simp only [Option.some.injEq, Prod.mk.injEq] at h
    simp only [List.length_cons, ← h.2]
    omega

theorem length_dropWhile_le (p : Char → Bool) (cs : List Char) :
    (cs.dropWhile p).length ≤ cs.length :=
  (List.dropWhile_sublist p).length_le

def tokens (cs : List Char) : List Token :=
  match _hs : cs.dropWhile isBlank with
  | [] => []
  | c :: rest =>
    match _ht : token? (c :: rest) with
    | none => [.malformed]
    | some (t, rest') => t :: tokens rest'
termination_by cs.length
decreasing_by
  have h₁ := length_lt_of_token? _ht
  have h₂ := length_dropWhile_le isBlank cs
  rw [_hs] at h₂
  omega

end GameShelf.Json
