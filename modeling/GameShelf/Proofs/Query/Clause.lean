import GameShelf.Proofs.Numeral.Digits
import GameShelf.Proofs.Query.FirstOperator
import GameShelf.Proofs.Text.Blank
import GameShelf.Proofs.Text.Occurrence

/-!
# Clauses that are read

A clause that was read has an operator that applies to its field and a literal that its value
writes. No such value can hide another clause: it has no blank at its ends, no comma, and no token
that a clause is searched for up to its own operator. These facts are all that is needed to read the
clause again from its field, operator and value with a space between them. The spaces matter: they
keep the token apart from the first character of the value.
-/

namespace GameShelf

namespace Operator

/-! ## The operators that are searched for first -/

/-- The operators that a clause is searched for before this one. -/
def above (op : Operator) : List Operator :=
  precedence.takeWhile (· ≠ op)

theorem exists_precedence_eq (op : Operator) :
    ∃ below, precedence = op.above ++ op :: below := by
  cases op <;> exact ⟨_, rfl⟩

/-- An operator is found when its token occurs and no token does that is searched for before it. -/
theorem find?_eq_some_iff {cs : List Char} {op : Operator} :
    find? cs = some op ↔ op.token <:+: cs ∧ ∀ op' ∈ op.above, ¬ op'.token <:+: cs := by
  constructor
  · intro h
    obtain ⟨hoccurs, first, below, hprecedence, hfirst⟩ := List.find?_eq_some_iff_append.1 h
    have hne : ∀ op' ∈ first, decide (op' ≠ op) = true := by
      intro op' hop'
      apply decide_eq_true
      rintro rfl
      have hnot := hfirst op' hop'
      rw [hoccurs] at hnot
      exact absurd hnot (by decide)
    have habove : op.above = first := by
      rw [above, hprecedence, List.takeWhile_append_of_pos hne]
      simp
    refine ⟨Text.occurs_iff.1 hoccurs, ?_⟩
    intro op' hop' hwithin
    rw [habove] at hop'
    have hnot := hfirst op' hop'
    rw [Text.occurs_iff.2 hwithin] at hnot
    exact absurd hnot (by decide)
  · rintro ⟨hwithin, habove⟩
    obtain ⟨below, hprecedence⟩ := op.exists_precedence_eq
    apply List.find?_eq_some_iff_append.2
    refine ⟨Text.occurs_iff.2 hwithin, op.above, below, hprecedence, ?_⟩
    intro op' hop'
    rw [Bool.not_eq_true', ← Bool.not_eq_true, Text.occurs_iff]
    exact habove op' hop'

/-- No token is part of one that is searched for after it. -/
theorem not_infix_token_of_mem_above {op op' : Operator} (h : op' ∈ op.above) :
    ¬ op'.token <:+: op.token := by
  have hall : (op.above.all fun op' ↦ !Text.occurs op'.token op.token) = true := by
    cases op <;> decide
  rw [← Text.occurs_iff, Bool.not_eq_true]
  exact Bool.not_eq_eq_eq_not.1 (List.all_eq_true.1 hall op' h)

theorem space_not_mem_token (op : Operator) : ' ' ∉ op.token := by
  cases op <;> decide

theorem isSign_of_mem_token {op : Operator} {c : Char} (h : c ∈ op.token) : isSign c = true :=
  isSign_iff.2 ⟨op, h⟩

/-- A token that occurs in a text has its first character there. -/
theorem exists_isSign_of_infix {op : Operator} {cs : List Char} (h : op.token <:+: cs) :
    ∃ c ∈ cs, isSign c = true := by
  obtain ⟨sign, signs, htoken⟩ := List.exists_cons_of_ne_nil op.token_ne_nil
  have hsign : sign ∈ op.token := by
    rw [htoken]
    exact List.mem_cons_self
  exact ⟨sign, h.subset hsign, isSign_of_mem_token hsign⟩

/-! ## Values after an operator -/

/-- What a clause can have for its value after this operator. -/
structure Admits (op : Operator) (value : List Char) : Prop where
  strip_eq : Text.strip value = value
  ne_nil : value ≠ []
  no_comma : ',' ∉ value
  no_token : ¬ op.token <:+: value
  no_above : ∀ op' ∈ op.above, ¬ op'.token <:+: value

theorem isSign_of_isMark {c : Char} (h : Numeral.isMark c = true) : isSign c = false := by
  apply Bool.eq_false_iff.2
  intro hsign
  obtain ⟨op, hop⟩ := isSign_iff.1 hsign
  have hall : (op.token.all fun d ↦ !Numeral.isMark d) = true := by
    cases op <;> decide
  have hnot := List.all_eq_true.1 hall c hop
  rw [h] at hnot
  exact absurd hnot (by decide)

/-- A number can stand after every operator. -/
theorem admits_of_all_isMark {value : List Char} (h : value.all Numeral.isMark = true)
    (hne : value ≠ []) (op : Operator) : op.Admits value := by
  have hmark : ∀ c ∈ value, Numeral.isMark c = true := List.all_eq_true.1 h
  have htoken (op : Operator) : ¬ op.token <:+: value := by
    intro hwithin
    obtain ⟨c, hc, hsign⟩ := exists_isSign_of_infix hwithin
    rw [isSign_of_isMark (hmark c hc)] at hsign
    exact absurd hsign (by decide)
  exact {
    strip_eq := Text.strip_of_forall fun c hc ↦ Numeral.isBlank_of_isMark (hmark c hc)
    ne_nil := hne
    no_comma := fun hcomma ↦ absurd (hmark ',' hcomma) (by decide)
    no_token := htoken op
    no_above := fun op' _ ↦ htoken op' }

end Operator

/-! ## Reading -/

section Reading

variable {F : Type} [Schema F]

/-- A clause is what a value of a kind makes of its field and its operator. -/
structure Clause.Writes (c : Clause F) (kind : Kind) (value : String) : Prop where
  kind_eq : Schema.kind? c.field = some kind
  applies : c.op.appliesTo kind = true
  literal_eq : Literal.ofText? kind value = some c.literal
  admits : c.op.Admits value.toList

theorem Reading.exists_of_ofParts_eq_compiled {name value : String} {op : Operator}
    {c : Clause F} (h : ofParts name op value = compiled c) :
    ∃ kind, c.op = op ∧ Schema.kind? c.field = some kind ∧ op.appliesTo kind = true ∧
      Literal.ofText? kind value = some c.literal := by
  unfold ofParts at h
  split at h
  · cases h
  · next field kind hfield =>
    obtain ⟨_, -, hqueried⟩ := Option.bind_eq_some_iff.1 hfield
    obtain ⟨_, hkind, hpair⟩ := Option.map_eq_some_iff.1 hqueried
    cases hpair
    split at h
    · next happlies =>
      split at h
      · next literal hliteral =>
        cases h
        exact ⟨kind, rfl, hkind, happlies, hliteral⟩
      · cases h
    · cases h

/-- A clause that is read has a value that can hide no other clause. -/
theorem Reading.exists_writes_of_eq_compiled {s : String} {c : Clause F} (hcomma : ',' ∉ s.toList)
    (h : ofText s = compiled c) : ∃ kind value, c.Writes kind value := by
  unfold ofText at h
  split at h
  · cases h
  · next op hfind =>
    split at h
    · cases h
    · next before rest hsplit =>
      dsimp only at h
      split at h
      · cases h
      · next hne =>
        obtain ⟨kind, rfl, hkind, happlies, hliteral⟩ := exists_of_ofParts_eq_compiled h
        obtain ⟨hcut, honce⟩ := Option.filter_eq_some_iff.1 hsplit
        have honce : (!Text.occurs c.op.token rest) = true := honce
        -- The value is a part of the text, so what does not occur in the text is not in it either.
        obtain ⟨left, right, hstrip, -, -⟩ := Text.exists_eq_append_strip rest
        have hvalue : Text.strip rest <:+: rest := ⟨left, right, hstrip.symm⟩
        have hwithin : rest <:+: s.toList := by
          rw [Text.eq_append_of_cut? hcut]
          exact (List.suffix_append _ rest).isInfix
        refine ⟨kind, String.ofList (Text.strip rest), hkind, happlies, hliteral, ?_⟩
        rw [String.toList_ofList]
        exact {
          strip_eq := Text.strip_strip rest
          ne_nil := by
            intro hnil
            rw [hnil] at hne
            simp at hne
          no_comma := fun hmem ↦ hcomma (hwithin.subset (hvalue.subset hmem))
          no_token := by
            intro htoken
            rw [Text.occurs_iff.2 (htoken.trans hvalue)] at honce
            exact absurd honce (by decide)
          no_above := fun op' hop' htoken ↦
            (Operator.find?_eq_some_iff.1 hfind).2 op' hop'
              ((htoken.trans hvalue).trans hwithin) }

end Reading

/-! ## Writing -/

/-- The text of a clause: its field, its operator and its value, with a space between them. -/
def clauseText {F : Type} [Schema F] (field : F) (op : Operator) (value : String) : String :=
  Schema.name field ++ " " ++ op.symbol ++ " " ++ value

theorem toList_clauseText {F : Type} [Schema F] (field : F) (op : Operator) (value : String) :
    (clauseText field op value).toList =
      (Schema.name field).toList ++ ' ' :: (op.token ++ ' ' :: value.toList) := by
  simp [clauseText, Operator.symbol]

namespace Column

/-- The name of a column has no character that means something else in an expression. -/
theorem plain_of_mem_name {column : Column} {c : Char} (h : c ∈ (Schema.name column).toList) :
    Text.isBlank c = false ∧ Operator.isSign c = false ∧ c ≠ ',' := by
  have hall : ((Schema.name column).toList.all fun c ↦
      !Text.isBlank c && !Operator.isSign c && c != ',') = true := by
    cases column <;> decide +kernel
  have hc := List.all_eq_true.1 hall c h
  simpa [and_assoc] using hc

theorem strip_name (column : Column) :
    Text.strip (Schema.name column).toList = (Schema.name column).toList :=
  Text.strip_of_forall fun _ hc ↦ (plain_of_mem_name hc).1

theorem name_ne_nil (column : Column) : (Schema.name column).toList ≠ [] := by
  cases column <;> decide

theorem queryable?_name {column : Column} {kind : Kind} (h : Schema.kind? column = some kind) :
    Schema.queryable? (Schema.name column) = some (column, kind) := by
  have hname : Schema.ofName? (Schema.name column) = some column :=
    ofName?_canonicalName column
  rw [Schema.queryable?, hname, Option.bind_some, h]
  rfl

end Column

namespace Clause.Writes

variable {c : Clause Column} {kind : Kind} {value : String}

/-- Of the tokens that are searched for up to the operator, only that of the operator occurs in the
text of a clause. -/
theorem find?_clauseText (h : c.Writes kind value) :
    Operator.find? (clauseText c.field c.op value).toList = some c.op := by
  rw [toList_clauseText]
  apply Operator.find?_eq_some_iff.2
  constructor
  · exact ⟨(Schema.name c.field).toList ++ [' '], ' ' :: value.toList, by simp⟩
  · intro op hop hwithin
    rcases (Text.infix_append_cons_iff op.space_not_mem_token).1 hwithin with hname | hrest
    · obtain ⟨d, hd, hsign⟩ := Operator.exists_isSign_of_infix hname
      rw [(Column.plain_of_mem_name hd).2.1] at hsign
      exact absurd hsign (by decide)
    · rcases (Text.infix_append_cons_iff op.space_not_mem_token).1 hrest with htoken | hvalue
      · exact Operator.not_infix_token_of_mem_above hop htoken
      · exact h.admits.no_above op hop hvalue

theorem splitOnce?_clauseText (h : c.Writes kind value) :
    Text.splitOnce? c.op.token (clauseText c.field c.op value).toList =
      some ((Schema.name c.field).toList ++ [' '], ' ' :: value.toList) := by
  have hbefore : ∀ d ∈ (Schema.name c.field).toList ++ [' '], d ∉ c.op.token := by
    intro d hd hmem
    rcases List.mem_append.1 hd with hname | hlast
    · have hsign := Operator.isSign_of_mem_token hmem
      rw [(Column.plain_of_mem_name hname).2.1] at hsign
      exact absurd hsign (by decide)
    · rw [List.mem_singleton.1 hlast] at hmem
      exact c.op.space_not_mem_token hmem
  have hcut := Text.cut?_append c.op.token_ne_nil hbefore (' ' :: value.toList)
  have htext : (clauseText c.field c.op value).toList =
      (Schema.name c.field).toList ++ [' '] ++ c.op.token ++ ' ' :: value.toList := by
    simp [toList_clauseText]
  rw [Text.splitOnce?, htext, hcut, Option.filter_some, if_pos]
  rw [Bool.not_eq_true', ← Bool.not_eq_true, Text.occurs_iff]
  intro hwithin
  have hparts : c.op.token <:+: [] ∨ c.op.token <:+: value.toList :=
    (Text.infix_append_cons_iff c.op.space_not_mem_token).1 hwithin
  rcases hparts with hnil | hvalue
  · exact c.op.token_ne_nil (List.infix_nil.1 hnil)
  · exact h.admits.no_token hvalue

/-- A clause is read from its text. -/
theorem ofText_clauseText (h : c.Writes kind value) :
    Reading.ofText (clauseText c.field c.op value) = .compiled c := by
  have hblank : ∀ d ∈ [' '], Text.isBlank d = true := List.forall_mem_singleton.2 rfl
  have hname : Text.strip ((Schema.name c.field).toList ++ [' ']) =
      (Schema.name c.field).toList := by
    rw [Text.strip_append_right hblank, Column.strip_name]
  have hvalue : Text.strip (' ' :: value.toList) = value.toList :=
    (Text.strip_append_left hblank).trans h.admits.strip_eq
  have hne : ((Schema.name c.field).toList.isEmpty || value.toList.isEmpty) = false := by
    rw [List.isEmpty_eq_false_iff.2 (Column.name_ne_nil c.field),
      List.isEmpty_eq_false_iff.2 h.admits.ne_nil]
    rfl
  rw [Reading.ofText, h.find?_clauseText]
  dsimp only
  rw [h.splitOnce?_clauseText]
  dsimp only
  rw [hname, hvalue, hne, String.ofList_toList, String.ofList_toList, Reading.ofParts,
    Column.queryable?_name h.kind_eq]
  dsimp only
  rw [if_pos h.applies, h.literal_eq]
  rfl

theorem no_comma_clauseText (h : c.Writes kind value) :
    ',' ∉ (clauseText c.field c.op value).toList := by
  rw [toList_clauseText]
  intro hmem
  rcases List.mem_append.1 hmem with hname | hrest
  · exact (Column.plain_of_mem_name hname).2.2 rfl
  · rcases List.mem_append.1 ((List.mem_cons.1 hrest).resolve_left (by decide)) with htoken | hvalue
    · have hsign := Operator.isSign_of_mem_token htoken
      exact absurd hsign (by decide)
    · exact h.admits.no_comma ((List.mem_cons.1 hvalue).resolve_left (by decide))

theorem strip_clauseText (h : c.Writes kind value) :
    Text.strip (clauseText c.field c.op value).toList = (clauseText c.field c.op value).toList := by
  have htext : (clauseText c.field c.op value).toList =
      (Schema.name c.field).toList ++ (' ' :: c.op.token ++ [' ']) ++ value.toList := by
    simp [toList_clauseText]
  rw [htext]
  exact Text.strip_append_of_ends (Column.strip_name c.field) (Column.name_ne_nil c.field)
    h.admits.strip_eq h.admits.ne_nil _

end Clause.Writes

end GameShelf
