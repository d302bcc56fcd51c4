/-!
# Where a token stands in a text

`cut? token cs` separates `cs` at the first place where `token` begins; `occurs` asks whether there
is such a place, and `splitOnce?` whether the text falls into exactly two parts when every
occurrence of the token, taken from left to right and without overlap, separates.
-/

namespace GameShelf.Text

/-- The characters before and after the leftmost occurrence of `token`. -/
def cut? (token : List Char) : List Char → Option (List Char × List Char)
  | [] => if token.isEmpty then some ([], []) else none
  | c :: cs =>
    if token.isPrefixOf (c :: cs) then some ([], (c :: cs).drop token.length)
    else (cut? token cs).map fun (before, rest) ↦ (c :: before, rest)

def occurs (token cs : List Char) : Bool :=
  (cut? token cs).isSome

/-- The two parts of a text that `token` separates exactly once. -/
def splitOnce? (token cs : List Char) : Option (List Char × List Char) :=
  (cut? token cs).filter fun (_, rest) ↦ !occurs token rest

/-- Nothing is lost: the parts and the token between them make up the text. -/
theorem eq_append_of_cut? {token cs before rest : List Char}
    (h : cut? token cs = some (before, rest)) : cs = before ++ token ++ rest := by
  induction cs generalizing before with
  | nil =>
    cases token with
    | nil => simp_all [cut?]
    | cons t ts => simp [cut?] at h
  | cons c cs ih =>
    rw [cut?] at h
    split at h
    · next hp =>
      obtain ⟨tail, ht⟩ := List.isPrefixOf_iff_prefix.1 hp
      simp only [Option.some.injEq, Prod.mk.injEq] at h
      obtain ⟨rfl, rfl⟩ := h
      rw [← ht]
      simp
    · obtain ⟨⟨b, r⟩, hc, hb⟩ := Option.map_eq_some_iff.1 h
      obtain ⟨rfl, rfl⟩ := Prod.mk.inj hb
      simp [ih hc]

/-- A token is found exactly when the text holds it as a contiguous part. -/
theorem occurs_iff {token cs : List Char} : occurs token cs = true ↔ token <:+: cs := by
  constructor
  · intro h
    obtain ⟨⟨before, rest⟩, hc⟩ := Option.isSome_iff_exists.1 h
    exact ⟨before, rest, (eq_append_of_cut? hc).symm⟩
  · rintro ⟨before, rest, rfl⟩
    induction before with
    | nil =>
      cases h : token ++ rest with
      | nil => simp_all [occurs, cut?]
      | cons c cs =>
        have hp : token.isPrefixOf (c :: cs) = true :=
          List.isPrefixOf_iff_prefix.2 ⟨rest, h⟩
        simp [occurs, cut?, h, hp]
    | cons c cs ih =>
      simp only [occurs, List.cons_append, cut?]
      split
      · rfl
      · simpa [occurs] using ih

end GameShelf.Text
