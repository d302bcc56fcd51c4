import GameShelf.Proofs.Game.FilterSort
import GameShelf.Proofs.Query.WellShaped

/-!
# Names of columns

A column is named in a clause, in a sort order, and on its own. Each of the three trims the name at
a place of its own, and finds out by itself whether the column can be queried. They agree all the
same: a name that a clause does not know is one that nothing can be sorted by, and the column that a
clause compares is the one that games are sorted on.
-/

namespace GameShelf

/-! ## Clauses without further tokens -/

namespace Operator

theorem find?_eq_none_iff_free {cs : List Char} :
    find? cs = none ↔ ∀ op : Operator, ¬ op.token <:+: cs := by
  simp only [find?_eq_none_iff, ← Bool.not_eq_true, Text.occurs_iff]

theorem appliesTo_eq (kind : Kind) : eq.appliesTo kind = true := by
  cases kind <;> rfl

section Free

variable {name value : List Char} (hname : ∀ op : Operator, ¬ op.token <:+: name)
  (hvalue : ∀ op : Operator, ¬ op.token <:+: value) (op : Operator)

include hname hvalue

theorem infix_token_iff_of_free (op' : Operator) :
    op'.token <:+: name ++ ' ' :: (op.token ++ ' ' :: value) ↔ op'.token <:+: op.token := by
  rw [Text.infix_append_cons_iff op'.space_not_mem_token,
    Text.infix_append_cons_iff op'.space_not_mem_token, or_iff_right (hname op'),
    or_iff_left (hvalue op')]

theorem find?_of_free : find? (name ++ ' ' :: (op.token ++ ' ' :: value)) = some op := by
  rw [find?_eq_some_iff]
  constructor
  · exact (infix_token_iff_of_free hname hvalue op op).2 List.infix_rfl
  · intro op' hop' hwithin
    apply not_infix_token_of_mem_above hop'
    exact (infix_token_iff_of_free hname hvalue op op').1 hwithin

/-- The characters of a token may stand in the name, as long as the token does not. -/
theorem splitOnce?_of_free :
    Text.splitOnce? op.token (name ++ ' ' :: (op.token ++ ' ' :: value)) =
      some (name ++ [' '], ' ' :: value) := by
  have htoken : Text.cut? op.token ([] ++ op.token ++ ' ' :: value) = some ([], ' ' :: value) :=
    Text.cut?_append op.token_ne_nil (fun _ hc ↦ absurd hc List.not_mem_nil) _
  rw [List.nil_append] at htoken
  have hrest : ¬ op.token <:+: [' '] ++ value := by
    rw [Text.infix_append_iff_of_forall op.token_ne_nil
      (List.forall_mem_singleton.2 op.space_not_mem_token)]
    exact hvalue op
  rw [Text.splitOnce?, Text.cut?_append_cons op.space_not_mem_token (hname op), htoken,
    Option.map_some, Option.filter_some, if_pos]
  rwa [Bool.not_eq_true', ← Bool.not_eq_true, Text.occurs_iff]

end Free

end Operator

/-- A clause is read by its parts if neither its name nor its value holds a token. -/
theorem Reading.ofText_of_free {F : Type} [Schema F] {name value clause : String} {op : Operator}
    (hclause : clause.toList = name.toList ++ ' ' :: (op.token ++ ' ' :: value.toList))
    (hname : ∀ op : Operator, ¬ op.token <:+: name.toList)
    (hvalue : ∀ op : Operator, ¬ op.token <:+: value.toList)
    (hne : Text.trim name ≠ "") (hne' : Text.trim value ≠ "") :
    (ofText clause : Reading F) = ofParts (Text.trim name) op (Text.trim value) := by
  have hblank : ∀ c ∈ [' '], Text.isBlank c = true := List.forall_mem_singleton.2 rfl
  have hbefore : Text.strip (name.toList ++ [' ']) = Text.strip name.toList :=
    Text.strip_append_right hblank
  have hafter : Text.strip (' ' :: value.toList) = Text.strip value.toList :=
    Text.strip_append_left hblank
  have hempty {s : String} (h : Text.trim s ≠ "") : (Text.strip s.toList).isEmpty = false := by
    rwa [List.isEmpty_eq_false_iff, ← Text.toList_trim, ne_eq, String.toList_eq_nil_iff]
  rw [ofText, hclause, Operator.find?_of_free hname hvalue]
  dsimp only
  rw [Operator.splitOnce?_of_free hname hvalue]
  dsimp only
  rw [hbefore, hafter, hempty hne, hempty hne']
  rfl

/-! ## Names of columns that can be queried -/

/-- A column that can be queried answers to its names, in any letter case and with blanks around
them. -/
def Column.AnswersTo (column : Column) (name : String) : Prop :=
  column.isQueryable = true ∧ Text.fold (Text.trim name) ∈ column.aliases

namespace Column

variable {column : Column} {name : String}

theorem ofName?_eq_some_iff :
    ofName? name = some column ↔ Text.fold (Text.trim name) ∈ column.aliases :=
  ⟨mem_aliases_of_ofName?, find?_of_mem_aliases⟩

theorem ofName?_trim (name : String) :
    (Schema.ofName? (Text.trim name) : Option Column) = ofName? name := by
  have h := ofName?_strip name.toList
  rwa [String.ofList_toList] at h

/-! ## The column that is meant -/

namespace AnswersTo

variable (h : column.AnswersTo name)

include h

theorem ofName?_eq : ofName? name = some column :=
  ofName?_eq_some_iff.2 h.2

theorem byName_eq : byName name = .ok column := by
  unfold byName
  rw [h.ofName?_eq]

theorem order_eq (direction : Direction) :
    SortOrder.byName name direction = .ok ⟨column, direction⟩ := by
  rw [SortOrder.byName, ofName?_trim, h.ofName?_eq]
  exact on_of_isQueryable h.1 direction

theorem queryable?_eq : ∃ kind, Schema.queryable? (Text.trim name) = some (column, kind) := by
  obtain ⟨kind, hkind⟩ := Option.isSome_iff_exists.1 h.1
  refine ⟨kind, ?_⟩
  rw [Schema.queryable?, ofName?_trim, h.ofName?_eq, Option.bind_some,
    show Schema.kind? column = some kind from hkind, Option.map_some]

/-- Texts and numbers alike can be tested for equality, so the clause is not ignored. -/
theorem means_ofParts (value : String) :
    Reading.Means column .eq value (Reading.ofParts (Text.trim name) .eq value) := by
  obtain ⟨kind, hqueried⟩ := h.queryable?_eq
  have hkept : ∀ reason,
      (Reading.ofParts (Text.trim name) .eq value : Reading Column) ≠ .ignored reason := by
    intro reason hignored
    rw [Reading.ofParts, hqueried] at hignored
    dsimp only at hignored
    rw [if_pos (Operator.appliesTo_eq kind)] at hignored
    split at hignored
    · cases hignored
    · cases hignored
  obtain ⟨field, hfield, hmeans⟩ := Reading.means_ofParts hkept
  rw [ofName?_trim, h.ofName?_eq] at hfield
  obtain rfl : column = field := Option.some.inj hfield
  exact hmeans

theorem comparator_eq (direction : Direction) :
    (comparatorByName name direction : Except QueryError (Game → Game → Ordering)) =
      .ok (SortOrder.compare ⟨column, direction⟩) := by
  rw [comparatorByName, h.order_eq]
  rfl

end AnswersTo

/-! ## Names of columns that cannot be queried, and of none -/

section Refused

variable (h : ∀ column : Column, ¬ column.AnswersTo name)

include h

theorem kind?_eq_none (hname : ofName? name = some column) : Schema.kind? column = none := by
  change column.kind? = none
  rw [← Option.not_isSome_iff_eq_none]
  intro hkind
  exact h column ⟨hkind, ofName?_eq_some_iff.1 hname⟩

theorem ofParts_eq_unknownField (op : Operator) (value : String) :
    (Reading.ofParts (Text.trim name) op value : Reading Column) =
      .ignored (.unknownField (Text.trim name)) := by
  have hnone : (Schema.queryable? (Text.trim name) : Option (Column × Kind)) = none := by
    rw [Schema.queryable?, ofName?_trim]
    cases hname : ofName? name with
    | none => rfl
    | some column => rw [Option.bind_some, kind?_eq_none h hname, Option.map_none]
  rw [Reading.ofParts, hnone]

theorem order_eq_error (direction : Direction) :
    ∃ s, (SortOrder.byName name direction : Except QueryError (SortOrder Column)) =
      .error (.unsupportedSort s) := by
  rw [SortOrder.byName, ofName?_trim]
  cases hname : ofName? name with
  | none => exact ⟨_, rfl⟩
  | some column =>
    refine ⟨Schema.name column, ?_⟩
    dsimp only
    rw [SortOrder.on, kind?_eq_none h hname]

theorem comparator_eq_error (direction : Direction) :
    ∃ s, (comparatorByName name direction : Except QueryError (Game → Game → Ordering)) =
      .error (.unsupportedSort s) := by
  obtain ⟨s, hs⟩ := order_eq_error h direction
  refine ⟨s, ?_⟩
  rw [comparatorByName, hs]
  rfl

theorem byName_or_sortGames_eq_error (direction : Direction) :
    (∃ s, byName name = .error (.unsupportedSort s)) ∨
      ∃ column, byName name = .ok column ∧
        ∀ games, ∃ s, sortGames column direction games = .error (.unsupportedSort s) := by
  unfold byName
  cases hname : ofName? name with
  | none => exact .inl ⟨name, rfl⟩
  | some column =>
    refine .inr ⟨column, rfl, fun games ↦ ⟨Schema.name column, ?_⟩⟩
    rw [sortGames, sortOn, SortOrder.on, kind?_eq_none h hname]
    rfl

end Refused

end Column

/-! ## One meaning -/

theorem sortGames_eq_mergeSort {column : Column} (h : column.isQueryable = true)
    (direction : Direction) (games : List Game) :
    sortGames column direction games = .ok (games.mergeSort fun a b ↦
      (SortOrder.compare (⟨column, direction⟩ : SortOrder Column) a b).isLE) := by
  rw [sortGames_of_isQueryable h, SortOrder.sort_eq_mergeSort]

/-- A name is unknown to a clause, to a sort order, to a comparator and to a sort of games alike,
and it is so exactly if no column that can be queried answers to it. Otherwise all of them mean the
column that does: the clause compares this column, and games that are sorted on it are sorted by the
comparator. -/
theorem column_names_agree {name value : String} (hname : Text.trim name ≠ "")
    (hvalue : Text.trim value ≠ "")
    (hfree : ∀ op : Operator, ¬ op.token <:+: name.toList ∧ ¬ op.token <:+: value.toList)
    (direction : Direction) :
    List.TFAE [
        ∃ s, (Reading.ofText (name ++ " == " ++ value) : Reading Column) =
          .ignored (.unknownField s),
        ∃ s, (SortOrder.byName name direction : Except QueryError (SortOrder Column)) =
          .error (.unsupportedSort s),
        ∃ s, (comparatorByName name direction : Except QueryError (Game → Game → Ordering)) =
          .error (.unsupportedSort s),
        (∃ s, Column.byName name = .error (.unsupportedSort s)) ∨
          ∃ column, Column.byName name = .ok column ∧
            ∀ games, ∃ s, sortGames column direction games = .error (.unsupportedSort s),
        ∀ column : Column, ¬ column.AnswersTo name] ∧
      ∀ column : Column, column.AnswersTo name →
        Column.byName name = .ok column ∧
        SortOrder.byName name direction = .ok ⟨column, direction⟩ ∧
        Reading.Means column .eq (Text.trim value) (Reading.ofText (name ++ " == " ++ value)) ∧
        ∃ comparator : Game → Game → Ordering,
          comparatorByName name direction = .ok comparator ∧
          ∀ games, sortGames column direction games =
            .ok (games.mergeSort fun a b ↦ (comparator a b).isLE) := by
  have hread : (Reading.ofText (name ++ " == " ++ value) : Reading Column) =
      Reading.ofParts (Text.trim name) .eq (Text.trim value) := by
    have hclause : (name ++ " == " ++ value).toList =
        name.toList ++ ' ' :: (Operator.eq.token ++ ' ' :: value.toList) := by
      simp [Operator.token]
    exact Reading.ofText_of_free hclause (fun op ↦ (hfree op).1) (fun op ↦ (hfree op).2) hname
      hvalue
  rw [hread]
  refine ⟨?_, ?_⟩
  · tfae_have 5 → 1 := fun h ↦ ⟨_, Column.ofParts_eq_unknownField h .eq _⟩
    tfae_have 5 → 2 := fun h ↦ Column.order_eq_error h direction
    tfae_have 5 → 3 := fun h ↦ Column.comparator_eq_error h direction
    tfae_have 5 → 4 := fun h ↦ Column.byName_or_sortGames_eq_error h direction
    tfae_have 1 → 5 := by
      rintro ⟨s, hs⟩ column h
      have hmeans := h.means_ofParts (Text.trim value)
      rw [hs] at hmeans
      cases hmeans
    tfae_have 2 → 5 := by
      rintro ⟨s, hs⟩ column h
      cases (h.order_eq direction).symm.trans hs
    tfae_have 3 → 5 := by
      rintro ⟨s, hs⟩ column h
      cases (h.comparator_eq direction).symm.trans hs
    tfae_have 4 → 5 := by
      rintro (⟨s, hs⟩ | ⟨column', hbyName, hsort⟩) column h
      · cases h.byName_eq.symm.trans hs
      · obtain rfl : column = column' := Except.ok.inj (h.byName_eq.symm.trans hbyName)
        obtain ⟨s, hs⟩ := hsort []
        cases (sortGames_eq_mergeSort h.1 direction []).symm.trans hs
    tfae_finish
  · intro column h
    exact ⟨h.byName_eq, h.order_eq direction, h.means_ofParts _, _, h.comparator_eq direction,
      sortGames_eq_mergeSort h.1 direction⟩

/-- Single characters of a token may stand in a value. The second name of the year is known between
blanks and in any letter case; the least time is a column too, but none that can be queried. -/
theorem column_names_agree_year_and_time :
    let year := "\u3000YearPUBLISHED\t"
    let time := " minTime"
    (Text.trim year ≠ "" ∧ Text.trim time ≠ "" ∧ Text.trim "=1!" ≠ "") ∧
      (∀ op : Operator, ¬ op.token <:+: year.toList ∧ ¬ op.token <:+: "=1!".toList) ∧
      (∀ op : Operator, ¬ op.token <:+: time.toList ∧ ¬ op.token <:+: "=1!".toList) ∧
      (Column.year.AnswersTo year ∧
        Reading.Means Column.year .eq (Text.trim "=1!")
          (Reading.ofText (year ++ " == " ++ "=1!")) ∧
        ∃ comparator : Game → Game → Ordering,
          comparatorByName year .descending = .ok comparator ∧
          ∀ games, sortGames .year .descending games =
            .ok (games.mergeSort fun a b ↦ (comparator a b).isLE)) ∧
      (∃ s, (SortOrder.byName time .descending : Except QueryError (SortOrder Column)) =
        .error (.unsupportedSort s)) ∧
      ∃ s, (Reading.ofText (time ++ " == " ++ "=1!") : Reading Column) =
        .ignored (.unknownField s) := by
  intro year time
  have hvalue : ∀ op : Operator, ¬ op.token <:+: "=1!".toList :=
    Operator.find?_eq_none_iff_free.1 (by decide +kernel)
  have hyear : ∀ op : Operator, ¬ op.token <:+: year.toList ∧ ¬ op.token <:+: "=1!".toList :=
    fun op ↦ ⟨Operator.find?_eq_none_iff_free.1 (by decide +kernel) op, hvalue op⟩
  have htime : ∀ op : Operator, ¬ op.token <:+: time.toList ∧ ¬ op.token <:+: "=1!".toList :=
    fun op ↦ ⟨Operator.find?_eq_none_iff_free.1 (by decide +kernel) op, hvalue op⟩
  have hne : Text.trim year ≠ "" ∧ Text.trim time ≠ "" ∧ Text.trim "=1!" ≠ "" := by
    decide +kernel
  have hanswers : Column.year.AnswersTo year := ⟨rfl, by decide +kernel⟩
  have hrefused : ∃ s, (SortOrder.byName time .descending : Except QueryError (SortOrder Column)) =
      .error (.unsupportedSort s) :=
    ⟨"minPlayTime", by decide +kernel⟩
  obtain ⟨-, -, hmeans, hsort⟩ :=
    (column_names_agree hne.1 hne.2.2 hyear .descending).2 .year hanswers
  have hagree := (column_names_agree hne.2.1 hne.2.2 htime .descending).1
  exact ⟨hne, hyear, htime, ⟨hanswers, hmeans, hsort⟩, hrefused, (hagree.out 1 0).1 hrefused⟩

end GameShelf
