import GameShelf.Proofs.Numeral.Grammar
import GameShelf.Proofs.Query.Clause
import GameShelf.Proofs.Text.LetterCase

/-!
# Clauses that write their three parts

A clause that writes the name of a column, an operator of its kind and a value, with blanks between
them, is read as it is written, unless the value overrules the operator: a token in the value wins
that a clause is searched for before the operator, and the token of the operator itself must not
come twice. A clause whose operator is overruled is ignored, whatever its value denotes.
-/

namespace GameShelf

/-- What comes before a token does not matter if it shares no character with it. -/
theorem Text.infix_append_iff_of_forall {token before : List Char} (hne : token ≠ [])
    (h : ∀ c ∈ before, c ∉ token) (cs : List Char) :
    token <:+: before ++ cs ↔ token <:+: cs := by
  induction before with
  | nil => rfl
  | cons c before ih =>
    obtain ⟨hc, hbefore⟩ := List.forall_mem_cons.1 h
    rw [List.cons_append, List.infix_cons_iff, ih hbefore]
    apply or_iff_right
    intro hprefix
    rcases List.prefix_cons_iff.1 hprefix with rfl | ⟨tail, rfl, -⟩
    · exact hne rfl
    · exact hc List.mem_cons_self

namespace Operator

/-- The value holds a token that a clause is searched for no later than the operator. -/
def OverruledBy (op : Operator) (value : List Char) : Prop :=
  ∃ op', precedence.idxOf op' ≤ precedence.idxOf op ∧ op'.token <:+: value

instance (op : Operator) (value : List Char) : Decidable (op.OverruledBy value) :=
  decidable_of_iff
    (∃ op' ∈ precedence,
      precedence.idxOf op' ≤ precedence.idxOf op ∧ Text.occurs op'.token value = true)
    (by simp [OverruledBy, mem_precedence, Text.occurs_iff])

theorem idxOf_precedence_le_iff {op op' : Operator} :
    precedence.idxOf op' ≤ precedence.idxOf op ↔ op' = op ∨ op' ∈ op.above := by
  cases op <;> cases op' <;> decide

theorem overruledBy_iff {op : Operator} {value : List Char} :
    op.OverruledBy value ↔
      op.token <:+: value ∨ ∃ op' ∈ op.above, op'.token <:+: value := by
  constructor
  · rintro ⟨op', hle, hvalue⟩
    rcases idxOf_precedence_le_iff.1 hle with rfl | habove
    · exact .inl hvalue
    · exact .inr ⟨op', habove, hvalue⟩
  · rintro (hvalue | ⟨op', habove, hvalue⟩)
    · exact ⟨op, Nat.le_refl _, hvalue⟩
    · exact ⟨op', idxOf_precedence_le_iff.2 (.inr habove), hvalue⟩

/-! ## The parts of a clause -/

/-- A name, an operator and a value, with one or more blanks between them. -/
inductive Spaced (name : List Char) (op : Operator) (value : List Char) : List Char → Prop where
  | mk {left right : List Char} (hleft : left ≠ [] ∧ ∀ c ∈ left, Text.isBlank c = true)
      (hright : right ≠ [] ∧ ∀ c ∈ right, Text.isBlank c = true) :
      Spaced name op value (name ++ left ++ op.token ++ (right ++ value))

theorem isSign_of_isBlank {c : Char} (h : Text.isBlank c = true) : isSign c = false := by
  apply Bool.eq_false_iff.2
  intro hsign
  obtain ⟨op, hop⟩ := isSign_iff.1 hsign
  rw [isBlank_of_mem_token hop] at h
  exact absurd h (by decide)

theorem not_mem_token_of_isSign {c : Char} (h : isSign c = false) (op : Operator) :
    c ∉ op.token := by
  intro hmem
  rw [isSign_of_mem_token hmem] at h
  exact absurd h (by decide)

theorem takeWhile_isSign_token (op : Operator) {c : Char} (h : isSign c = false)
    (rest : List Char) : (op.token ++ c :: rest).takeWhile isSign = op.token := by
  rw [List.takeWhile_append_of_pos fun _ ↦ isSign_of_mem_token,
    List.takeWhile_cons_of_neg (Bool.eq_false_iff.1 h), List.append_nil]

theorem dropWhile_not_isSign {before : List Char} (h : ∀ c ∈ before, isSign c = false)
    (op : Operator) (rest : List Char) :
    (before ++ op.token ++ rest).dropWhile (fun c ↦ !isSign c) = op.token ++ rest := by
  obtain ⟨sign, signs, htoken⟩ := List.exists_cons_of_ne_nil op.token_ne_nil
  have hmem : sign ∈ op.token := by
    rw [htoken]
    exact List.mem_cons_self
  have hsign : isSign sign = true := isSign_of_mem_token hmem
  rw [List.append_assoc, List.dropWhile_append_of_pos (by simpa using h), htoken,
    List.cons_append, List.dropWhile_cons_of_neg (by simp [hsign])]

variable {name value cs : List Char} {op : Operator}

/-- A token in such a clause is within that of the operator or within the value. -/
theorem Spaced.infix_token_iff (h : Spaced name op value cs)
    (hname : ∀ c ∈ name, isSign c = false) (op' : Operator) :
    op'.token <:+: cs ↔ op'.token <:+: op.token ∨ op'.token <:+: value := by
  obtain ⟨hleft, hright⟩ := h
  obtain ⟨blank, right, rfl⟩ := List.exists_cons_of_ne_nil hright.1
  obtain ⟨hblank, hright⟩ := List.forall_mem_cons.1 hright.2
  have hplain {cs : List Char} (h : ∀ c ∈ cs, isSign c = false) : ∀ c ∈ cs, c ∉ op'.token :=
    fun c hc ↦ not_mem_token_of_isSign (h c hc) op'
  rw [List.append_assoc, List.append_assoc,
    Text.infix_append_iff_of_forall op'.token_ne_nil (hplain hname),
    Text.infix_append_iff_of_forall op'.token_ne_nil
      (hplain fun c hc ↦ isSign_of_isBlank (hleft.2 c hc)),
    List.cons_append,
    Text.infix_append_cons_iff (not_mem_token_of_isSign (isSign_of_isBlank hblank) op'),
    Text.infix_append_iff_of_forall op'.token_ne_nil
      (hplain fun c hc ↦ isSign_of_isBlank (hright c hc))]

/-- The operator is found unless the value holds a token that is searched for before it. -/
theorem Spaced.find?_eq_some_iff (h : Spaced name op value cs)
    (hname : ∀ c ∈ name, isSign c = false) :
    find? cs = some op ↔ ∀ op' ∈ op.above, ¬ op'.token <:+: value := by
  rw [Operator.find?_eq_some_iff, h.infix_token_iff hname]
  constructor
  · rintro ⟨-, habove⟩ op' hop' hvalue
    exact habove op' hop' ((h.infix_token_iff hname op').2 (.inr hvalue))
  · intro habove
    refine ⟨.inl List.infix_rfl, ?_⟩
    intro op' hop' hwithin
    rcases (h.infix_token_iff hname op').1 hwithin with htoken | hvalue
    · exact not_infix_token_of_mem_above hop' htoken
    · exact habove op' hop' hvalue

/-- No other operator can be found behind a text without signs. -/
theorem Spaced.eq_of_find? (h : Spaced name op value cs)
    (hname : ∀ c ∈ name, isSign c = false) {op' : Operator} {before rest : List Char}
    (hfind : find? cs = some op') (hcs : cs = before ++ op'.token ++ rest)
    (hbefore : ∀ c ∈ before, isSign c = false) : op' = op := by
  have hoccurs : Text.occurs op.token cs = true :=
    Text.occurs_iff.2 ((h.infix_token_iff hname op).2 (.inl List.infix_rfl))
  have hlength : op.token.length ≤ op'.token.length := length_token_le_of_find? hfind hoccurs
  obtain ⟨hleft, hright⟩ := h
  obtain ⟨blank, right, rfl⟩ := List.exists_cons_of_ne_nil hright.1
  have hblank := isSign_of_isBlank (List.forall_mem_cons.1 hright.2).1
  have hfront : ∀ c ∈ name ++ _, isSign c = false :=
    List.forall_mem_append.2 ⟨hname, fun c hc ↦ isSign_of_isBlank (hleft.2 c hc)⟩
  -- Both tokens begin where the first sign of the clause stands, and one ends before the blank.
  have htail : op.token ++ (blank :: right ++ value) = op'.token ++ rest := by
    rw [← dropWhile_not_isSign hfront, ← dropWhile_not_isSign hbefore, hcs]
  have hfirst : op'.token <+: op.token := by
    have hsigns : op'.token <+: (op'.token ++ rest).takeWhile isSign := by
      rw [List.takeWhile_append_of_pos fun _ ↦ isSign_of_mem_token]
      exact List.prefix_append _ _
    rwa [← htail, List.cons_append, takeWhile_isSign_token op hblank] at hsigns
  exact eq_of_token_eq (hfirst.eq_of_length_le hlength)

/-- The clause falls into its name and its value where its operator stands, unless the token of the
operator stands in the value too. -/
theorem Spaced.splitOnce?_eq (h : Spaced name op value cs)
    (hname : ∀ c ∈ name, isSign c = false) :
    ∃ left right, (∀ c ∈ left, Text.isBlank c = true) ∧ (∀ c ∈ right, Text.isBlank c = true) ∧
      Text.splitOnce? op.token cs =
        if Text.occurs op.token value then none else some (name ++ left, right ++ value) := by
  obtain @⟨left, right, hleft, hright⟩ := h
  have hplain {cs : List Char} (h : ∀ c ∈ cs, Text.isBlank c = true) : ∀ c ∈ cs, c ∉ op.token :=
    fun c hc ↦ not_mem_token_of_isSign (isSign_of_isBlank (h c hc)) op
  have hfront : ∀ c ∈ name ++ left, c ∉ op.token :=
    List.forall_mem_append.2 ⟨fun c hc ↦ not_mem_token_of_isSign (hname c hc) op, hplain hleft.2⟩
  have hrest : Text.occurs op.token (right ++ value) = Text.occurs op.token value := by
    rw [Bool.eq_iff_iff, Text.occurs_iff, Text.occurs_iff,
      Text.infix_append_iff_of_forall op.token_ne_nil (hplain hright.2)]
  refine ⟨left, right, hleft.2, hright.2, ?_⟩
  rw [Text.splitOnce?, Text.cut?_append op.token_ne_nil hfront, Option.filter_some]
  simp only [hrest]
  cases Text.occurs op.token value <;> rfl

end Operator

/-! ## Values -/

/-- What a value denotes for a column of a kind: itself as a text, a whole number of 32 bits, or a
finite number of double precision. -/
inductive Literal.Denotes (value : String) : Kind → Literal → Prop where
  | text : Denotes value .text (.text value)
  | integer {n : Int} (h : Numeral.WritesSigned value.toList n)
      (hbits : -0x80000000 ≤ n ∧ n < 0x80000000) : Denotes value .integer (.number (.integer n))
  | float {x : Decimal} (h : Decimal.ofLiteral? value.toList = some x)
      (hfinite : x.toBinary64.isFinite = true) :
      Denotes value .float (.number (.float x.toBinary64))

theorem fitsInt32_iff {n : Int} : fitsInt32 n = true ↔ -0x80000000 ≤ n ∧ n < 0x80000000 := by
  rw [fitsInt32, Bool.and_eq_true, decide_eq_true_iff, decide_eq_true_iff]
  exact and_congr_right fun _ ↦ Int.lt_add_one_iff.symm

theorem Literal.ofText?_eq_some_iff {kind : Kind} {value : String} {literal : Literal} :
    ofText? kind value = some literal ↔ Denotes value kind literal := by
  cases kind with
  | text =>
    rw [ofText?, Option.some.injEq]
    constructor
    · rintro rfl
      exact .text
    · rintro ⟨⟩
      rfl
  | integer =>
    rw [ofText?, Option.map_eq_some_iff]
    constructor
    · rintro ⟨n, hn, rfl⟩
      obtain ⟨hread, hfits⟩ := Option.filter_eq_some_iff.1 hn
      exact .integer (Numeral.integer?_eq_some_iff_writesSigned.1 hread) (fitsInt32_iff.1 hfits)
    · rintro ⟨⟩
      next n h hn =>
        refine ⟨n, Option.filter_eq_some_iff.2 ⟨?_, fitsInt32_iff.2 hn⟩, rfl⟩
        exact Numeral.integer?_eq_some_iff_writesSigned.2 h
  | float =>
    rw [ofText?, Option.map_eq_some_iff]
    constructor
    · rintro ⟨x, hx, rfl⟩
      obtain ⟨hread, hfinite⟩ := Option.filter_eq_some_iff.1 hx
      obtain ⟨d, hd, rfl⟩ := Option.map_eq_some_iff.1 hread
      exact .float hd hfinite
    · rintro ⟨⟩
      next d h hfinite =>
        exact ⟨_, Option.filter_eq_some_iff.2 ⟨Option.map_eq_some_iff.2 ⟨d, h, rfl⟩, hfinite⟩, rfl⟩

/-! ## Names -/

namespace Column

variable {column : Column} {name : String}

/-- No two columns share a name. -/
theorem find?_of_mem_aliases {spelling : String} (h : spelling ∈ column.aliases) :
    all.find? (fun column ↦ column.aliases.contains spelling) = some column := by
  have hall : (column.aliases.all fun spelling ↦
      all.find? (fun column ↦ column.aliases.contains spelling) == some column) = true := by
    cases column <;> decide +kernel
  exact beq_iff_eq.1 (List.all_eq_true.1 hall spelling h)

/-- A name of a column, in any letter case, has letters only. -/
theorem isLower_toLower_of_mem_name (h : Text.fold name ∈ column.aliases) {c : Char}
    (hc : c ∈ name.toList) : c.toLower.isLower = true := by
  apply isLower_of_mem_aliases h
  rw [Text.toList_fold]
  exact List.mem_map_of_mem hc

theorem isBlank_of_mem_name (h : Text.fold name ∈ column.aliases) {c : Char}
    (hc : c ∈ name.toList) : Text.isBlank c = false := by
  rw [← Text.isBlank_toLower]
  apply Text.isBlank_of_isAlpha
  rw [Char.isAlpha, isLower_toLower_of_mem_name h hc, Bool.or_true]

theorem strip_of_mem_aliases (h : Text.fold name ∈ column.aliases) :
    Text.strip name.toList = name.toList :=
  Text.strip_of_forall fun _ ↦ isBlank_of_mem_name h

theorem ofName?_of_mem_aliases (h : Text.fold name ∈ column.aliases) :
    ofName? name = some column := by
  have htrim : Text.trim name = name := by
    rw [Text.trim, strip_of_mem_aliases h, String.ofList_toList]
  rw [ofName?, htrim]
  exact find?_of_mem_aliases h

theorem name_ne_nil_of_mem_aliases (h : Text.fold name ∈ column.aliases) : name.toList ≠ [] := by
  intro hnil
  have hempty : Text.fold name = "" := by
    rw [Text.fold, hnil]
    rfl
  rw [hempty] at h
  exact absurd h (by cases column <;> decide)

theorem isSign_of_mem_aliases (h : Text.fold name ∈ column.aliases) :
    ∀ c ∈ name.toList, Operator.isSign c = false := by
  intro c hc
  exact isSign_of_mem_name (ofName?_of_mem_aliases h) hc

/-- Blanks around a name do not change the column that it names. -/
theorem ofName?_strip (cs : List Char) :
    ofName? (String.ofList (Text.strip cs)) = ofName? (String.ofList cs) := by
  simp [ofName?, Text.trim]

theorem queryable?_of_mem_aliases {kind : Kind} (h : Text.fold name ∈ column.aliases)
    (hkind : column.kind? = some kind) :
    Schema.queryable? name = some (column, kind) := by
  rw [Schema.queryable?, show Schema.ofName? name = some column from ofName?_of_mem_aliases h,
    Option.bind_some, show Schema.kind? column = some kind from hkind]
  rfl

end Column

/-! ## Readings -/

namespace Reading

variable {name value clause : String} {column : Column} {kind : Kind} {op : Operator}

/-- A clause is ignored if another operator than its own is found. -/
theorem find?_of_not_ignored (hname : Text.fold name ∈ column.aliases)
    (hclause : op.Spaced name.toList value.toList clause.toList)
    (hkept : ∀ reason, (ofText clause : Reading Column) ≠ ignored reason) :
    Operator.find? clause.toList = some op := by
  obtain ⟨before, op', rest, hfind, hcs, hparts⟩ := exists_parts_of_not_ignored hkept
  rw [hparts] at hkept
  obtain ⟨field, hfield, -⟩ := means_ofParts hkept
  change Column.ofName? (String.ofList (Text.strip before)) = some field at hfield
  rw [Column.ofName?_strip] at hfield
  have hbefore : ∀ c ∈ before, Operator.isSign c = false := by
    intro c hc
    exact Column.isSign_of_mem_name hfield (by rwa [String.toList_ofList])
  obtain rfl := hclause.eq_of_find? (Column.isSign_of_mem_aliases hname) hfind hcs hbefore
  exact hfind

/-- A clause whose operator is found is read by its parts, unless the value holds the token too. -/
theorem ofText_of_find? (hname : Text.fold name ∈ column.aliases)
    (hclause : op.Spaced name.toList value.toList clause.toList)
    (hvalue : Text.trim value = value) (hne : value ≠ "")
    (hfind : Operator.find? clause.toList = some op) :
    (ofText clause : Reading Column) =
      if Text.occurs op.token value.toList then ignored .malformed else ofParts name op value := by
  obtain ⟨left, right, hleft, hright, hsplit⟩ :=
    hclause.splitOnce?_eq (Column.isSign_of_mem_aliases hname)
  rw [ofText, hfind]
  dsimp only
  rw [hsplit]
  cases Text.occurs op.token value.toList with
  | true => rfl
  | false =>
    have hbefore : Text.strip (name.toList ++ left) = name.toList := by
      rw [Text.strip_append_right hleft, Column.strip_of_mem_aliases hname]
    have hafter : Text.strip (right ++ value.toList) = value.toList := by
      rw [Text.strip_append_left hright, ← Text.toList_trim, hvalue]
    have hempty : (name.toList.isEmpty || value.toList.isEmpty) = false := by
      rw [List.isEmpty_eq_false_iff.2 (Column.name_ne_nil_of_mem_aliases hname),
        List.isEmpty_eq_false_iff.2 (by simpa using hne)]
      rfl
    simp only [Bool.false_eq_true, if_false]
    rw [hbefore, hafter, hempty, String.ofList_toList, String.ofList_toList,
      if_neg Bool.false_ne_true]

end Reading

end GameShelf
