import GameShelf.Game.Column
import GameShelf.Query.Expression

/-!
# The operator that stands first

A clause is searched for operators in the order of precedence and not from left to right, so a
token inside the value may win over the one that was written first. The names of columns settle
the matter: no character of a token occurs in them, so a clause whose field is known has nothing
but its name before the operator that was found. That operator begins before all others, and is
the longest one that begins there. A clause in which another token was found is ignored.
-/

namespace GameShelf

namespace Operator

/-! ## Characters of tokens -/

/-- Whether a character stands in the token of an operator. -/
def isSign (c : Char) : Bool :=
  precedence.any fun op ↦ op.token.contains c

theorem isSign_iff {c : Char} : isSign c = true ↔ ∃ op : Operator, c ∈ op.token := by
  simp only [isSign, List.any_eq_true, List.contains_iff_mem]
  exact ⟨fun ⟨op, _, h⟩ ↦ ⟨op, h⟩, fun ⟨op, h⟩ ↦ ⟨op, mem_precedence op, h⟩⟩

theorem isBlank_of_mem_token {c : Char} {op : Operator} (h : c ∈ op.token) :
    Text.isBlank c = false := by
  have hall : (op.token.all fun d ↦ !Text.isBlank d) = true := by
    cases op <;> decide
  exact Bool.not_eq_eq_eq_not.1 (List.all_eq_true.1 hall c h)

theorem isLower_toLower_of_mem_token {c : Char} {op : Operator} (h : c ∈ op.token) :
    c.toLower.isLower = false := by
  have hall : (op.token.all fun d ↦ !d.toLower.isLower) = true := by
    cases op <;> decide
  exact Bool.not_eq_eq_eq_not.1 (List.all_eq_true.1 hall c h)

/-! ## Reading a token from left to right -/

/-- The token of `op` stands after `before`, no token begins earlier in the text, and no longer one
begins at the same place. -/
structure StandsFirst (cs before : List Char) (op : Operator) (rest : List Char) : Prop where
  eq_append : cs = before ++ op.token ++ rest
  earliest : ∀ (before' : List Char) (op' : Operator) (rest' : List Char),
    cs = before' ++ op'.token ++ rest' → before.length ≤ before'.length
  longest : ∀ (op' : Operator) (rest' : List Char),
    cs = before ++ op'.token ++ rest' → op'.token.length ≤ op.token.length

theorem eq_of_token_eq {op op' : Operator} (h : op.token = op'.token) : op = op' := by
  cases op <;> cases op' <;> first | rfl | exact absurd h (by decide)

/-- Reading from left to right finds one token at most. -/
theorem StandsFirst.unique {cs before before' rest rest' : List Char} {op op' : Operator}
    (h : StandsFirst cs before op rest) (h' : StandsFirst cs before' op' rest') :
    before' = before ∧ op' = op ∧ rest' = rest := by
  have hlength : before'.length = before.length :=
    Nat.le_antisymm (h'.earliest _ _ _ h.eq_append) (h.earliest _ _ _ h'.eq_append)
  have heq := h'.eq_append.symm.trans h.eq_append
  rw [List.append_assoc, List.append_assoc] at heq
  obtain ⟨rfl, htail⟩ := List.append_inj heq hlength
  have htoken : op'.token.length = op.token.length :=
    Nat.le_antisymm (h.longest _ _ h'.eq_append) (h'.longest _ _ h.eq_append)
  obtain ⟨hop, hrest⟩ := List.append_inj htail htoken
  exact ⟨rfl, eq_of_token_eq hop, hrest⟩

/-- No token of a text is longer than the one that is found in it. -/
theorem length_token_le_of_find? {cs : List Char} {op op' : Operator}
    (hfind : find? cs = some op) (hoccurs : Text.occurs op'.token cs = true) :
    op'.token.length ≤ op.token.length := by
  obtain ⟨_, above, below, hprecedence, habove⟩ := List.find?_eq_some_iff_append.1 hfind
  have hsorted : precedence.Pairwise fun a b ↦ b.token.length ≤ a.token.length := by decide
  have hmem := mem_precedence op'
  rw [hprecedence] at hmem hsorted
  rcases List.mem_append.1 hmem with hmem | hmem
  · have hnot := habove op' hmem
    rw [hoccurs] at hnot
    exact absurd hnot (by decide)
  · rcases List.mem_cons.1 hmem with rfl | hmem
    · exact Nat.le_refl _
    · exact (List.pairwise_cons.1 (List.pairwise_append.1 hsorted).2.1).1 op' hmem

/-- The operator that is found stands first when no sign is written before it. -/
theorem standsFirst_of_find? {cs before rest : List Char} {op : Operator}
    (hfind : find? cs = some op) (hcs : cs = before ++ op.token ++ rest)
    (hbefore : ∀ c ∈ before, isSign c = false) : StandsFirst cs before op rest where
  eq_append := hcs
  earliest before' op' rest' hcs' := by
    -- A token that begins earlier has its first character among those of `before`.
    apply Nat.le_of_not_lt
    intro hlt
    obtain ⟨sign, signs, htoken⟩ := List.exists_cons_of_ne_nil (token_ne_nil op')
    have hat : cs[before'.length]? = some sign := by
      rw [hcs', htoken, List.append_assoc, List.getElem?_append_right (Nat.le_refl _),
        Nat.sub_self]
      rfl
    rw [hcs, List.append_assoc, List.getElem?_append_left hlt] at hat
    have hsign : isSign sign = true := isSign_iff.2 ⟨op', by rw [htoken]; exact List.mem_cons_self⟩
    rw [hbefore sign (List.mem_of_getElem? hat)] at hsign
    exact absurd hsign (by decide)
  longest op' rest' hcs' :=
    length_token_le_of_find? hfind (Text.occurs_iff.2 ⟨before, rest', hcs'.symm⟩)

end Operator

/-! ## Names of columns -/

theorem Column.isLower_of_mem_aliases {column : Column} {name : String}
    (hname : name ∈ column.aliases) {c : Char} (hc : c ∈ name.toList) : c.isLower = true := by
  have hall : (column.aliases.all fun name ↦ name.toList.all Char.isLower) = true := by
    cases column <;> decide +kernel
  exact List.all_eq_true.1 (List.all_eq_true.1 hall name hname) c hc

theorem Column.mem_aliases_of_ofName? {s : String} {column : Column}
    (h : ofName? s = some column) : Text.fold (Text.trim s) ∈ column.aliases := by
  unfold ofName? at h
  have hcontains := List.find?_some h
  exact List.contains_iff_mem.1 hcontains

/-- A text that names a column holds no sign. -/
theorem Column.isSign_of_mem_name {s : String} {column : Column} (h : ofName? s = some column)
    {c : Char} (hc : c ∈ s.toList) : Operator.isSign c = false := by
  apply Bool.eq_false_iff.2
  intro hsign
  obtain ⟨op, hop⟩ := Operator.isSign_iff.1 hsign
  have hstrip : c ∈ Text.strip s.toList := by
    apply (Text.isBlank_or_mem_strip hc).resolve_left
    rw [Operator.isBlank_of_mem_token hop]
    decide
  have hfold : c.toLower ∈ (Text.fold (Text.trim s)).toList := by
    rw [Text.toList_fold, Text.toList_trim]
    exact List.mem_map_of_mem hstrip
  have hlower := isLower_of_mem_aliases (mem_aliases_of_ofName? h) hfold
  rw [Operator.isLower_toLower_of_mem_token hop] at hlower
  exact absurd hlower (by decide)

/-! ## Readings of clauses -/

namespace Reading

variable {F : Type} [Schema F]

/-- What a clause is read as that names `field` and writes `op` and `value` after it. -/
inductive Means (field : F) (op : Operator) (value : String) : Reading F → Prop where
  /-- A text field is compared with the value as it is written. -/
  | text : Schema.kind? field = some .text →
      Means field op value (compiled { field, op, literal := .text value })
  /-- Another field is compared with the number that the value writes. -/
  | number {kind : Kind} {n : Number} : Schema.kind? field = some kind →
      Literal.ofText? kind value = some (.number n) →
      Means field op value (compiled { field, op, literal := .number n })
  /-- The error tells the name of the field and quotes the value. -/
  | invalid {kind : Kind} : Schema.kind? field = some kind →
      Literal.ofText? kind value = none →
      Means field op value (invalid (.invalidValue (Schema.name field) value kind))

/-- Only a text field has a text for a literal, and it is the value as it is written. -/
theorem eq_of_ofText?_text {kind : Kind} {value t : String}
    (h : Literal.ofText? kind value = some (.text t)) : kind = .text ∧ t = value := by
  cases kind with
  | text =>
    simp only [Literal.ofText?, Option.some.injEq, Literal.text.injEq] at h
    exact ⟨rfl, h.symm⟩
  | integer => simp [Literal.ofText?] at h
  | float => simp [Literal.ofText?] at h

theorem exists_parts_of_not_ignored {s : String}
    (h : ∀ reason, (ofText s : Reading F) ≠ ignored reason) :
    ∃ (before : List Char) (op : Operator) (rest : List Char),
      Operator.find? s.toList = some op ∧ s.toList = before ++ op.token ++ rest ∧
      (ofText s : Reading F) =
        ofParts (String.ofList (Text.strip before)) op (String.ofList (Text.strip rest)) := by
  unfold ofText at h ⊢
  split at h
  · exact absurd rfl (h _)
  · next op hop =>
    split at h
    · exact absurd rfl (h _)
    · next before rest hsplit =>
      dsimp only at h ⊢
      split at h
      · exact absurd rfl (h _)
      · next hempty =>
        obtain ⟨hcut, -⟩ := Option.filter_eq_some_iff.1 hsplit
        exact ⟨before, op, rest, hop, Text.eq_append_of_cut? hcut, if_neg hempty⟩

/-- The value of a field decides the literal; a value that is none is an error. -/
theorem means_ofParts {name value : String} {op : Operator}
    (h : ∀ reason, (ofParts name op value : Reading F) ≠ ignored reason) :
    ∃ field : F, Schema.ofName? name = some field ∧
      Means field op value (ofParts name op value) := by
  unfold ofParts at h ⊢
  split at h
  · exact absurd rfl (h _)
  · next field kind hfield =>
    obtain ⟨field', hname, hqueried⟩ := Option.bind_eq_some_iff.1 hfield
    obtain ⟨kind', hkind, hpair⟩ := Option.map_eq_some_iff.1 hqueried
    obtain ⟨rfl, rfl⟩ := Prod.mk.inj hpair
    refine ⟨field', hname, ?_⟩
    split at h
    · next happlies =>
      rw [if_pos happlies]
      cases hliteral : Literal.ofText? kind' value with
      | none => exact .invalid hkind hliteral
      | some literal =>
        cases literal with
        | number n => exact .number hkind hliteral
        | text t =>
          obtain ⟨rfl, rfl⟩ := eq_of_ofText?_text hliteral
          exact .text hkind
    · exact absurd rfl (h _)

/-- A clause that is not ignored is read with the operator that stands first in it. The text
before the operator names the field and the text after it is the value. -/
theorem means_standsFirst {s : String}
    (hkept : ∀ reason, (ofText s : Reading Column) ≠ ignored reason) :
    ∃ (before : List Char) (op : Operator) (rest : List Char) (field : Column),
      Operator.StandsFirst s.toList before op rest ∧
      (∀ (before' : List Char) (op' : Operator) (rest' : List Char),
        Operator.StandsFirst s.toList before' op' rest' →
          before' = before ∧ op' = op ∧ rest' = rest) ∧
      Column.ofName? (String.ofList (Text.strip before)) = some field ∧
      Means field op (String.ofList (Text.strip rest)) (ofText s) := by
  obtain ⟨before, op, rest, hfind, hcs, hparts⟩ := exists_parts_of_not_ignored hkept
  rw [hparts] at hkept ⊢
  obtain ⟨field, hname, hmeans⟩ := means_ofParts hkept
  have hbefore : ∀ c ∈ before, Operator.isSign c = false := by
    intro c hc
    rcases Text.isBlank_or_mem_strip hc with hblank | hstrip
    · apply Bool.eq_false_iff.2
      intro hsign
      obtain ⟨op', hop'⟩ := Operator.isSign_iff.1 hsign
      rw [Operator.isBlank_of_mem_token hop'] at hblank
      exact absurd hblank (by decide)
    · exact Column.isSign_of_mem_name hname (by rwa [String.toList_ofList])
  have hfirst := Operator.standsFirst_of_find? hfind hcs hbefore
  exact ⟨before, op, rest, field, hfirst, fun _ _ _ h ↦ hfirst.unique h, hname, hmeans⟩

/-- Three tokens overlap in this clause; the value is what follows the first of them. -/
theorem means_standsFirst_overlapping :
    (∀ reason, (ofText "year >== 3" : Reading Column) ≠ ignored reason) ∧
    ∃ (before : List Char) (op : Operator) (rest : List Char) (field : Column),
      Operator.StandsFirst "year >== 3".toList before op rest ∧
      (∀ (before' : List Char) (op' : Operator) (rest' : List Char),
        Operator.StandsFirst "year >== 3".toList before' op' rest' →
          before' = before ∧ op' = op ∧ rest' = rest) ∧
      Column.ofName? (String.ofList (Text.strip before)) = some field ∧
      Means field op (String.ofList (Text.strip rest)) (ofText "year >== 3") := by
  have hread : (ofText "year >== 3" : Reading Column) =
      invalid (.invalidValue "year" "= 3" .integer) := by
    decide +kernel
  have hkept : ∀ reason, (ofText "year >== 3" : Reading Column) ≠ ignored reason := by
    intro reason
    rw [hread]
    exact fun h ↦ nomatch h
  exact ⟨hkept, means_standsFirst hkept⟩

end Reading

end GameShelf
