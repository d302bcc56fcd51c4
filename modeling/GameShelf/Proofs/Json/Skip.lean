import GameShelf.Json.Skip
import GameShelf.Proofs.Json.Grammar

/-!
# What passing over a value leaves

Passing over the tokens of a value leaves what follows them, at any depth and whatever is open
around the value.
-/

namespace GameShelf.Json

/-- What passing over the rest of all that is open leaves, behind a value. -/
def resume? : List Frame → List Token → Option (List Token)
  | [], ts => some ts
  | stack, ts => skip? stack .separator ts

theorem skip?_cons {stack stack' : List Frame} {next : Next} (next' : Next) {t : Token}
    (h : advance? stack next t = some (stack', next')) (hnext : next' ≠ .separator)
    (ts : List Token) : skip? stack next (t :: ts) = skip? stack' next' ts := by
  rw [skip?, h]
  simp_all

theorem skip?_cons_separator {stack stack' : List Frame} {next : Next} {t : Token}
    (h : advance? stack next t = some (stack', .separator)) (ts : List Token) :
    skip? stack next (t :: ts) = resume? stack' ts := by
  rw [skip?, h]
  cases stack' <;> rfl

/-! ## The first token of a value -/

theorem advance?_value (stack : List Frame) (t : Token) :
    advance? stack .value t = enter? stack t := by
  rw [advance?]

theorem advance?_valueOrEnd (stack : List Frame) {t : Token} (h : t ≠ .endArray) :
    advance? stack .valueOrEnd t = enter? stack t := by
  rw [advance?]
  intro _ _ ht
  exact h ht

/-- The end of an array does not begin a value. -/
theorem skip?_valueOrEnd {value : List Token} (h : IsValue value) (stack : List Frame)
    (rest : List Token) :
    skip? stack .valueOrEnd (value ++ rest) = skip? stack .value (value ++ rest) := by
  have hfirst : ∃ t ts, value = t :: ts ∧ t ≠ .endArray := by
    cases h with
    | @scalar t h =>
      refine ⟨t, [], rfl, ?_⟩
      rintro rfl
      cases h
    | array => exact ⟨_, _, rfl, by decide⟩
    | object => exact ⟨_, _, rfl, by decide⟩
  obtain ⟨t, ts, rfl, ht⟩ := hfirst
  rw [List.cons_append, skip?, skip?, advance?_value, advance?_valueOrEnd stack ht]

/-! ## Rows of values -/

/-- Whether a row of tokens is passed over as one value. -/
def IsPassed (value : List Token) : Prop :=
  ∀ stack rest, skip? stack .value (value ++ rest) = resume? stack rest

theorem isPassed_scalar {t : Token} (h : t.isScalar = true) : IsPassed [t] := by
  intro stack rest
  apply skip?_cons_separator
  rw [advance?_value]
  cases t <;> first | rfl | cases h

theorem skip?_elements {values : List (List Token)} (h : ∀ value ∈ values, IsPassed value)
    (stack : List Frame) (rest : List Token) :
    skip? (.array :: stack) .separator (values.flatMap (.comma :: ·) ++ .endArray :: rest) =
      resume? stack rest := by
  -- What is open around the array stays on the stack throughout, so the stack need not vary.
  induction values with
  | nil => exact skip?_cons_separator rfl rest
  | cons value values ih =>
    obtain ⟨hvalue, hvalues⟩ := List.forall_mem_cons.1 h
    rw [List.flatMap_cons, List.append_assoc, List.cons_append,
      skip?_cons .value rfl nofun, hvalue]
    exact ih hvalues

theorem isPassed_array {values : List (List Token)} (hvalues : ∀ value ∈ values, IsValue value)
    (h : ∀ value ∈ values, IsPassed value) : IsPassed (arrayTokens values) := by
  intro stack rest
  have hbegin : advance? stack .value .beginArray = some (.array :: stack, .valueOrEnd) := by
    rw [advance?_value]
    rfl
  rw [arrayTokens, List.cons_append, List.cons_append, skip?_cons _ hbegin nofun]
  cases values with
  | nil => exact skip?_cons_separator rfl rest
  | cons value values =>
    obtain ⟨hvalue, hrest⟩ := List.forall_mem_cons.1 h
    rw [intercalate_cons, List.append_assoc, List.append_assoc,
      skip?_valueOrEnd (hvalues value List.mem_cons_self), hvalue]
    exact skip?_elements hrest stack rest

theorem skip?_member {m : Member} (h : IsPassed m.value) {next : Next}
    (hnext : next = .key ∨ next = .keyOrEnd) (stack : List Frame) (rest : List Token) :
    skip? (.object :: stack) next (m.tokens ++ rest) =
      skip? (.object :: stack) .separator rest := by
  have hkey : advance? (.object :: stack) next (.string m.key) =
      some (.object :: stack, .colon) := by
    rcases hnext with rfl | rfl <;> rfl
  rw [Member.tokens, List.cons_append, List.cons_append, skip?_cons _ hkey nofun,
    skip?_cons .value rfl nofun, h]
  rfl

theorem skip?_members {members : List Member} (h : ∀ m ∈ members, IsPassed m.value)
    (stack : List Frame) (rest : List Token) :
    skip? (.object :: stack) .separator
        ((members.map Member.tokens).flatMap (.comma :: ·) ++ .endObject :: rest) =
      resume? stack rest := by
  induction members with
  | nil => exact skip?_cons_separator rfl rest
  | cons m members ih =>
    obtain ⟨hm, hmembers⟩ := List.forall_mem_cons.1 h
    rw [List.map_cons, List.flatMap_cons, List.append_assoc, List.cons_append,
      skip?_cons .key rfl nofun, skip?_member hm (.inl rfl)]
    exact ih hmembers

theorem isPassed_object {members : List Member} (h : ∀ m ∈ members, IsPassed m.value) :
    IsPassed (objectTokens members) := by
  intro stack rest
  have hbegin : advance? stack .value .beginObject = some (.object :: stack, .keyOrEnd) := by
    rw [advance?_value]
    rfl
  rw [objectTokens, List.cons_append, List.cons_append, skip?_cons _ hbegin nofun]
  cases members with
  | nil => exact skip?_cons_separator rfl rest
  | cons m members =>
    obtain ⟨hm, hmembers⟩ := List.forall_mem_cons.1 h
    rw [List.map_cons, intercalate_cons, List.append_assoc, List.append_assoc,
      skip?_member hm (.inr rfl)]
    exact skip?_members hmembers stack rest

/-! ## Values -/

theorem isPassed_of_isValue {value : List Token} (h : IsValue value) : IsPassed value := by
  induction h with
  | scalar h => exact isPassed_scalar h
  | array h ih => exact isPassed_array h ih
  | object _ ih => exact isPassed_object ih

/-- Passing over a value leaves what follows it. -/
theorem skipValue?_append {value : List Token} (h : IsValue value) (rest : List Token) :
    skipValue? (value ++ rest) = some rest :=
  isPassed_of_isValue h [] rest

end GameShelf.Json
