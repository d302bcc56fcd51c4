import GameShelf.Proofs.Game.Draft
import GameShelf.Proofs.Json.Skip

/-!
# Taking the members of an object

Reading an object takes its members one after the other: a member of an unknown key leaves the draft
as it is, and a member of a column adds a field or is an error. Members of different columns add
what their values denote, in whatever order, and so do the values of an array. Members that can be
taken have different columns.
-/

namespace GameShelf

open Json

/-- The column that the key of a member names, if it names one. -/
def Json.Member.column? (m : Member) : Option Column :=
  (text? m.key).bind fun key ↦ Column.ofMember? (String.ofList key)

namespace Draft

/-! ## Members -/

/-- The draft behind the value of a column, of which the first token says what is found. -/
def takeValue (d : Draft) (column : Column) (value : List Token) : Except DecodeError Draft :=
  match value.head?.bind Token.found? with
  | none => .error .malformed
  | some found => d.set column found

def take (d : Draft) (m : Member) : Except DecodeError Draft :=
  match text? m.key with
  | none => .error .malformed
  | some key =>
    match Column.ofMember? (String.ofList key) with
    | none => .ok d
    | some column =>
      if d.has column then .error (.duplicateField column) else d.takeValue column m.value

theorem exists_set_array_eq_error (d : Draft) (column : Column) :
    ∃ e, d.set column .array = .error e := by
  cases column <;> exact ⟨_, rfl⟩

theorem exists_set_object_eq_error (d : Draft) (column : Column) :
    ∃ e, d.set column .object = .error e := by
  cases column <;> exact ⟨_, rfl⟩

/-- The value of a column is read as a single token, or it is an error. -/
theorem readValue_append {value : List Token} (h : IsValue value) (d : Draft) (column : Column)
    (rest : List Token) :
    d.readValue column (value ++ rest) = (d.takeValue column value).map fun d ↦ (d, rest) := by
  cases h with
  | @scalar t =>
    rw [List.singleton_append, readValue, takeValue, List.head?_cons, Option.bind_some]
    cases t.found? <;> rfl
  | array =>
    obtain ⟨e, he⟩ := exists_set_array_eq_error d column
    simp [arrayTokens, readValue, takeValue, Token.found?, he, Except.map]
  | object =>
    obtain ⟨e, he⟩ := exists_set_object_eq_error d column
    simp [objectTokens, readValue, takeValue, Token.found?, he, Except.map]

/-- Reading a member takes it and leaves what follows it. -/
theorem readMember_append {m : Member} (h : IsValue m.value) (d : Draft) (rest : List Token) :
    d.readMember (m.tokens ++ rest) = (d.take m).map fun d ↦ (d, rest) := by
  rw [Member.tokens, List.cons_append, List.cons_append, readMember, take]
  cases text? m.key with
  | none => rfl
  | some key =>
    dsimp only
    cases Column.ofMember? (String.ofList key) with
    | none => simp only [skipValue?_append h, Except.map]
    | some column =>
      dsimp only
      split
      · rfl
      · exact readValue_append h d column rest

/-! ## Objects -/

theorem readMembers_of_error {d : Draft} {ts : List Token} {e : DecodeError}
    (h : d.readMember ts = .error e) : d.readMembers ts = .error e := by
  rw [readMembers]
  split <;> simp_all

theorem readMembers_of_comma {d d' : Draft} {ts rest : List Token}
    (h : d.readMember ts = .ok (d', .comma :: rest)) : d.readMembers ts = d'.readMembers rest := by
  rw [readMembers]
  split <;> simp_all

theorem readMembers_of_end {d d' : Draft} {ts rest : List Token}
    (h : d.readMember ts = .ok (d', .endObject :: rest)) : d.readMembers ts = .ok (d', rest) := by
  rw [readMembers]
  split <;> simp_all

/-- Reading members takes them one after the other. -/
theorem readMembers_append {m : Member} {members : List Member}
    (h : ∀ m' ∈ m :: members, IsValue m'.value) (d : Draft) (rest : List Token) :
    d.readMembers ([.comma].intercalate ((m :: members).map Member.tokens) ++ .endObject :: rest) =
      ((m :: members).foldlM take d).map fun d ↦ (d, rest) := by
  induction members generalizing m d with
  | nil =>
    rw [List.map_singleton, List.intercalate_singleton, List.foldlM_cons]
    have hread := readMember_append (h m List.mem_cons_self) d (.endObject :: rest)
    cases htake : d.take m with
    | error e =>
      rw [htake] at hread
      exact readMembers_of_error hread
    | ok d' =>
      rw [htake] at hread
      exact readMembers_of_end hread
  | cons next members ih =>
    obtain ⟨hm, hmembers⟩ := List.forall_mem_cons.1 h
    rw [List.map_cons, List.map_cons, List.intercalate_cons_cons, ← List.map_cons, List.foldlM_cons,
      List.append_assoc, List.append_assoc]
    have hread := readMember_append hm d
      (.comma :: ([.comma].intercalate ((next :: members).map Member.tokens) ++ .endObject :: rest))
    -- An error of the first member ends both sides; otherwise both go on with its draft.
    cases htake : d.take m with
    | error e =>
      rw [htake] at hread
      exact readMembers_of_error hread
    | ok d' =>
      rw [htake] at hread
      exact (readMembers_of_comma hread).trans (ih hmembers d')

theorem ofTokens_objectTokens {members : List Member} (h : ∀ m ∈ members, IsValue m.value) :
    ofTokens (objectTokens members) = (members.foldlM take empty).map fun d ↦ (d, []) := by
  cases members with
  | nil => rfl
  | cons m members =>
    rw [← readMembers_append h empty [], objectTokens, List.map_cons, intercalate_cons]
    rfl

/-! ## Arrays -/

theorem readValue_part {g : Game} {column : Column} {t : Token} (h : t.Denotes (g.entry column))
    (read : List Column) (rest : List Token) :
    (part g read).readValue column (t :: rest) = .ok (part g (column :: read), rest) := by
  obtain ⟨found, hfound, hset⟩ := set_part h
  rw [readValue, hfound]
  exact congrArg (Except.map fun d ↦ (d, rest)) (hset read)

theorem readElements_cons {d d' : Draft} {column : Column} (count : Nat) {ts ts' rest : List Token}
    (hend : ts.head? ≠ some .endArray) (hcomma : afterComma? (count ≠ 0) ts = some ts')
    (hread : d.readValue column ts' = .ok (d', rest)) (columns : List Column) :
    d.readElements count (column :: columns) ts = d'.readElements (count + 1) columns rest := by
  rw [readElements]
  · rw [hcomma]
    dsimp only
    rw [hread]
  · rintro us rfl
    exact hend rfl

/-- Reading the values of a game adds its fields. -/
theorem readElements_append {g : Game} {value : Column → Token}
    (h : ∀ column, (value column).Denotes (g.entry column)) (read columns : List Column)
    (count : Nat) (rest : List Token) :
    (part g read).readElements (count + 1) columns
        ((columns.map fun column ↦ [value column]).flatMap (.comma :: ·) ++ .endArray :: rest) =
      .ok (part g (columns.reverse ++ read), rest) := by
  induction columns generalizing read count with
  | nil => rfl
  | cons column columns ih =>
    rw [List.map_cons, List.flatMap_cons, List.append_assoc, List.cons_append,
      List.singleton_append,
      readElements_cons _ (by simp) rfl (readValue_part (h column) read _), ih, List.reverse_cons,
      List.append_assoc]
    rfl

theorem ofTokens_arrayTokens {g : Game} {value : Column → Token}
    (h : ∀ column, (value column).Denotes (g.entry column)) :
    ofTokens (arrayTokens (Column.all.map fun column ↦ [value column])) =
      .ok (part g Column.all.reverse, []) := by
  have hfirst : value .name ≠ .endArray := by
    intro hname
    have hscalar := isScalar_of_denotes (h .name)
    rw [hname] at hscalar
    cases hscalar
  rw [arrayTokens, Column.all, List.map_cons, intercalate_cons, List.singleton_append]
  refine (readElements_cons 0 ?_ rfl (readValue_part (h .name) [] _) _).trans ?_
  · simpa using hfirst
  · exact readElements_append h _ _ _ _

/-! ## The members of a game -/

theorem take_of_column?_eq_none {m : Member} (htext : (text? m.key).isSome = true)
    (h : m.column? = none) (d : Draft) : d.take m = .ok d := by
  obtain ⟨key, hkey⟩ := Option.isSome_iff_exists.1 htext
  rw [Member.column?, hkey, Option.bind_some] at h
  simp only [take, hkey, h]

theorem take_of_column? {m : Member} {column : Column} (h : m.column? = some column) (d : Draft) :
    d.take m =
      if d.has column then .error (.duplicateField column) else d.takeValue column m.value := by
  obtain ⟨key, hkey, hcolumn⟩ := Option.bind_eq_some_iff.1 h
  simp only [take, hkey, hcolumn]

/-- A member adds the field that its value denotes. -/
theorem take_part {g : Game} {m : Member} {column : Column} {t : Token} {read : List Column}
    (hcolumn : m.column? = some column) (hvalue : m.value = [t])
    (hdenotes : t.Denotes (g.entry column)) (hnew : column ∉ read) :
    (part g read).take m = .ok (part g (column :: read)) := by
  obtain ⟨found, hfound, hset⟩ := set_part hdenotes
  rw [take_of_column? hcolumn, has_part, if_neg (by simpa using hnew), takeValue, hvalue,
    List.head?_cons, Option.bind_some, hfound]
  exact hset read

/-- Members of different columns add the fields that their values denote. -/
theorem foldlM_take_part {g : Game} {members : List Member} (read : List Column)
    (htext : ∀ m ∈ members, (text? m.key).isSome = true)
    (hvalue : ∀ m ∈ members, ∀ column, m.column? = some column →
      ∃ t, m.value = [t] ∧ t.Denotes (g.entry column))
    (hnodup : (members.filterMap Member.column?).Nodup)
    (hnew : ∀ column ∈ members.filterMap Member.column?, column ∉ read) :
    members.foldlM take (part g read) =
      .ok (part g ((members.filterMap Member.column?).reverse ++ read)) := by
  induction members generalizing read with
  | nil => rfl
  | cons m members ih =>
    obtain ⟨hmtext, htext⟩ := List.forall_mem_cons.1 htext
    obtain ⟨hmvalue, hvalue⟩ := List.forall_mem_cons.1 hvalue
    rw [List.foldlM_cons]
    cases hcolumn : m.column? with
    | none =>
      rw [List.filterMap_cons_none hcolumn] at hnodup hnew ⊢
      rw [take_of_column?_eq_none hmtext hcolumn]
      exact ih read htext hvalue hnodup hnew
    | some column =>
      rw [List.filterMap_cons_some hcolumn] at hnodup hnew ⊢
      obtain ⟨hfirst, hnodup⟩ := List.nodup_cons.1 hnodup
      obtain ⟨hcolumnNew, hnew⟩ := List.forall_mem_cons.1 hnew
      obtain ⟨t, ht, hdenotes⟩ := hmvalue column hcolumn
      rw [take_part hcolumn ht hdenotes hcolumnNew, List.reverse_cons, List.append_assoc]
      refine ih (column :: read) htext hvalue hnodup fun other hother hmem ↦ ?_
      rcases List.mem_cons.1 hmem with rfl | hmem
      · exact hfirst hother
      · exact hnew other hother hmem

/-! ## Objects that are no game -/

/-- A member adds its column, which must be new. -/
theorem has_take {d d' : Draft} {m : Member} (h : d.take m = .ok d') :
    (∀ column, m.column? = some column → d.has column = false) ∧
      ∀ other, d'.has other = true ↔ d.has other = true ∨ m.column? = some other := by
  cases hcolumn : m.column? with
  | none =>
    have hsame : d' = d := by
      rw [Member.column?] at hcolumn
      unfold take at h
      cases hkey : text? m.key with
      | none => simp [hkey] at h
      | some key => simp_all
    simp [hsame]
  | some column =>
    rw [take_of_column? hcolumn] at h
    split at h
    · cases h
    · next hnew =>
      unfold takeValue at h
      split at h
      · cases h
      · refine ⟨?_, fun other ↦ ?_⟩
        · rintro _ ⟨⟩
          simpa using hnew
        · rw [has_set h, Bool.or_eq_true, beq_iff_eq, Option.some.injEq, eq_comm (a := other)]

/-- Members that can be taken have different columns. -/
theorem has_foldlM_take {d d' : Draft} {members : List Member}
    (h : members.foldlM take d = .ok d') :
    (members.filterMap Member.column?).Nodup ∧
      (∀ column ∈ members.filterMap Member.column?, d.has column = false) ∧
        ∀ column, d'.has column = true ↔
          d.has column = true ∨ column ∈ members.filterMap Member.column? := by
  -- The first member is new to the draft, and the others are new to the draft behind it.
  induction members generalizing d with
  | nil =>
    cases h
    simp
  | cons m members ih =>
    rw [List.foldlM_cons] at h
    cases htake : d.take m with
    | error e =>
      rw [htake] at h
      cases h
    | ok dm =>
      rw [htake] at h
      obtain ⟨hmnew, hmhas⟩ := has_take htake
      obtain ⟨hnodup, hnew, hhas⟩ := ih h
      cases hcolumn : m.column? with
      | none =>
        have hsame : ∀ column, dm.has column = d.has column := by
          intro column
          rw [Bool.eq_iff_iff, hmhas, hcolumn]
          simp
        simp only [hsame] at hnew hhas
        rw [List.filterMap_cons_none hcolumn]
        exact ⟨hnodup, hnew, hhas⟩
      | some first =>
        have hread : ∀ column, dm.has column = true ↔ d.has column = true ∨ column = first := by
          intro column
          rw [hmhas, hcolumn, Option.some.injEq, eq_comm (a := first)]
        have hfirst : first ∉ members.filterMap Member.column? := by
          intro hmem
          exact Bool.eq_false_iff.1 (hnew first hmem) ((hread first).2 (.inr rfl))
        rw [List.filterMap_cons_some hcolumn]
        refine ⟨List.nodup_cons.2 ⟨hfirst, hnodup⟩, ?_, fun column ↦ ?_⟩
        · refine List.forall_mem_cons.2 ⟨hmnew first hcolumn, fun column hmem ↦ ?_⟩
          have hcolumnNew := hnew column hmem
          rw [Bool.eq_false_iff, Ne, hread, not_or] at hcolumnNew
          exact Bool.eq_false_iff.2 hcolumnNew.1
        · rw [hhas, hread, List.mem_cons, or_assoc]

end Draft

end GameShelf
