import GameShelf.Proofs.Query.Clause
import GameShelf.Proofs.Query.Join
import GameShelf.Proofs.Query.Kind
import Mathlib.Data.List.Forall2

/-!
# Printed queries

A query is printed as its clauses with commas between them. A text is printed as it is, a whole
number in decimal digits, and any other number as some literal that denotes it. Every query that was
read from an expression can be printed, and is read back from what is printed, with no clause
ignored.
-/

namespace GameShelf

/-! ## Printing -/

/-- How the literal of a clause is written. -/
inductive Literal.Spells : Literal → String → Prop where
  | text (s : String) : Spells (.text s) s
  | integer (n : Int) : Spells (.number (.integer n)) n.repr
  | float {x : Binary64} {s : String} : Decimal.finite? s.toList = some x →
      Spells (.number (.float x)) s

/-- A text is what a clause is printed as. -/
def Clause.Prints (c : Clause Column) (s : String) : Prop :=
  ∃ value, c.literal.Spells value ∧ s = clauseText c.field c.op value

/-- A text is what a query is printed as. -/
def Query.Prints (q : Query Column) (text : String) : Prop :=
  ∃ printed, List.Forall₂ Clause.Prints q.clauses printed ∧ text = ",".intercalate printed

namespace Clause.Writes

variable {c : Clause Column} {kind : Kind} {value : String}

/-- A number can be written after every operator that applies to it. -/
theorem of_number {field : Column} {op : Operator} {n : Number}
    (hkind : Schema.kind? field = some kind) (happlies : op.appliesTo kind = true)
    (hliteral : Literal.ofText? kind value = some (.number n)) :
    Clause.Writes ⟨field, op, .number n⟩ kind value where
  kind_eq := hkind
  applies := happlies
  literal_eq := hliteral
  admits :=
    have ⟨hmark, hne⟩ := Literal.isMark_of_ofText? hliteral
    Operator.admits_of_all_isMark hmark hne op

/-- Another spelling of the literal writes the same clause. -/
theorem of_spells (h : c.Writes kind value) {spelling : String}
    (hspells : c.literal.Spells spelling) : c.Writes kind spelling := by
  obtain ⟨field, op, literal⟩ := c
  have hliteral := h.literal_eq
  cases hspells with
  | text =>
    obtain ⟨-, rfl⟩ := Reading.eq_of_ofText?_text hliteral
    exact h
  | integer n =>
    obtain rfl : kind = .integer := (Literal.kind_of_ofText? hliteral).symm
    obtain ⟨m, hread, hm⟩ := Option.map_eq_some_iff.1 hliteral
    cases hm
    apply of_number h.kind_eq h.applies
    rw [Literal.ofText?, Numeral.integer?_repr, Option.filter_some,
      if_pos (Option.filter_eq_some_iff.1 hread).2]
    rfl
  | float hfinite =>
    obtain rfl : kind = .float := (Literal.kind_of_ofText? hliteral).symm
    exact of_number h.kind_eq h.applies (Option.map_eq_some_iff.2 ⟨_, hfinite, rfl⟩)

theorem exists_spells (h : c.Writes kind value) : ∃ spelling, c.literal.Spells spelling := by
  obtain ⟨field, op, literal⟩ := c
  have hliteral := h.literal_eq
  cases literal with
  | text s => exact ⟨s, .text s⟩
  | number n =>
    cases n with
    | integer n => exact ⟨n.repr, .integer n⟩
    | float x =>
      obtain rfl : kind = .float := (Literal.kind_of_ofText? hliteral).symm
      obtain ⟨y, hfinite, hy⟩ := Option.map_eq_some_iff.1 hliteral
      cases hy
      exact ⟨value, .float hfinite⟩

end Clause.Writes

/-! ## What is read from an expression -/

theorem not_mem_of_mem_splitOn {α : Type} [BEq α] [LawfulBEq α] {a : α} {xs piece : List α}
    (h : piece ∈ xs.splitOn a) : a ∉ piece := by
  induction xs generalizing piece with
  | nil =>
    rw [List.splitOn_nil, List.mem_singleton] at h
    rw [h]
    exact List.not_mem_nil
  | cons x xs ih =>
    obtain ⟨first, rest, hpieces⟩ := List.exists_cons_of_ne_nil (List.splitOn_ne_nil a xs)
    rw [List.splitOn_cons_eq_if_modifyHead] at h
    split at h
    · rcases List.mem_cons.1 h with rfl | h
      · exact List.not_mem_nil
      · exact ih h
    · next hne =>
      rw [hpieces] at h ih
      rcases List.mem_cons.1 h with rfl | h
      · intro hmem
        rcases List.mem_cons.1 hmem with rfl | hmem
        · exact hne (beq_self_eq_true _)
        · exact ih List.mem_cons_self hmem
      · exact ih (List.mem_cons_of_mem first h)

theorem no_comma_of_mem_clauseTexts {expression s : String} (h : s ∈ clauseTexts expression) :
    ',' ∉ s.toList := by
  obtain ⟨piece, hpiece, rfl⟩ := List.mem_map.1 h
  obtain ⟨left, right, hstrip, -, -⟩ := Text.exists_eq_append_strip piece
  have hwithin : Text.strip piece <:+: piece := ⟨left, right, hstrip.symm⟩
  rw [String.toList_ofList]
  intro hmem
  exact not_mem_of_mem_splitOn hpiece (hwithin.subset hmem)

section Compilations

variable {F : Type} [Schema F]

/-- Each clause of a query is what a text is read as. -/
theorem Compilation.exists_of_mem_clauses {texts : List String} {q : Query F}
    (h : (ofClauses texts).result = .ok q) {c : Clause F} (hc : c ∈ q.clauses) :
    ∃ s ∈ texts, Reading.ofText s = .compiled c := by
  induction texts generalizing q with
  | nil =>
    cases h
    exact absurd hc List.not_mem_nil
  | cons s texts ih =>
    have hcons : (cons s (ofClauses texts) : Compilation F).result = .ok q := h
    unfold cons at hcons
    cases hs : (Reading.ofText s : Reading F) with
    | invalid e =>
      rw [hs] at hcons
      cases hcons
    | ignored reason =>
      rw [hs] at hcons
      obtain ⟨t, ht, hread⟩ := ih hcons hc
      exact ⟨t, List.mem_cons_of_mem s ht, hread⟩
    | compiled d =>
      rw [hs] at hcons
      dsimp only at hcons
      cases hrest : (ofClauses texts : Compilation F).result with
      | error e =>
        rw [hrest] at hcons
        cases hcons
      | ok rest =>
        rw [hrest] at hcons
        cases hcons
        rcases List.mem_cons.1 hc with rfl | hc
        · exact ⟨s, List.mem_cons_self, hs⟩
        · obtain ⟨t, ht, hread⟩ := ih hrest hc
          exact ⟨t, List.mem_cons_of_mem s ht, hread⟩

theorem exists_writes_of_compile {expression : String} {q : Query F}
    (h : (compile expression).result = .ok q) {c : Clause F} (hc : c ∈ q.clauses) :
    ∃ kind value, c.Writes kind value := by
  unfold compile at h
  split at h
  · cases h
    exact absurd hc List.not_mem_nil
  · obtain ⟨s, hs, hread⟩ := Compilation.exists_of_mem_clauses h hc
    exact Reading.exists_writes_of_eq_compiled (no_comma_of_mem_clauseTexts hs) hread

theorem Compilation.ofClauses_of_forall₂ {clauses : List (Clause F)} {texts : List String}
    (h : List.Forall₂ (fun c s ↦ Reading.ofText s = .compiled c) clauses texts) :
    ofClauses texts = { dropped := [], result := .ok ⟨clauses⟩ } := by
  induction h with
  | nil => rfl
  | cons hread hrest ih =>
    change cons _ (ofClauses _) = _
    rw [cons, hread, ih]
    rfl

end Compilations

/-! ## What is printed is read back -/

/-- A text is the text of a clause, with some value that writes the clause. -/
def Clause.WrittenAs (c : Clause Column) (s : String) : Prop :=
  ∃ kind value, c.Writes kind value ∧ s = clauseText c.field c.op value

theorem Clause.WrittenAs.no_comma {c : Clause Column} {s : String} (h : c.WrittenAs s) :
    ',' ∉ s.toList := by
  obtain ⟨kind, value, hwrites, rfl⟩ := h
  exact hwrites.no_comma_clauseText

theorem Clause.WrittenAs.strip_eq {c : Clause Column} {s : String} (h : c.WrittenAs s) :
    Text.strip s.toList = s.toList := by
  obtain ⟨kind, value, hwrites, rfl⟩ := h
  exact hwrites.strip_clauseText

theorem Clause.WrittenAs.ofText_eq {c : Clause Column} {s : String} (h : c.WrittenAs s) :
    Reading.ofText s = .compiled c := by
  obtain ⟨kind, value, hwrites, rfl⟩ := h
  exact hwrites.ofText_clauseText

/-- Texts without commas are the pieces of what joins them. -/
theorem clauseTexts_intercalate {texts : List String} (hne : texts ≠ [])
    (hcomma : ∀ s ∈ texts, ',' ∉ s.toList)
    (hstrip : ∀ s ∈ texts, Text.strip s.toList = s.toList) :
    clauseTexts (",".intercalate texts) = texts := by
  have hpieces : (",".intercalate texts).toList.splitOn ',' = texts.map String.toList := by
    rw [String.toList_intercalate]
    apply List.splitOn_intercalate
    · intro piece hpiece
      obtain ⟨s, hs, rfl⟩ := List.mem_map.1 hpiece
      exact hcomma s hs
    · simpa using hne
  rw [clauseTexts, hpieces, List.map_map]
  calc
    texts.map ((fun piece ↦ String.ofList (Text.strip piece)) ∘ String.toList) = texts.map id := by
      apply List.map_congr_left
      intro s hs
      change String.ofList (Text.strip s.toList) = s
      rw [hstrip s hs, String.ofList_toList]
    _ = texts := List.map_id texts

theorem exists_of_forall₂_of_mem {α β : Type} {R : α → β → Prop} {as : List α} {bs : List β}
    (h : List.Forall₂ R as bs) {b : β} (hb : b ∈ bs) : ∃ a ∈ as, R a b := by
  induction h with
  | nil => exact absurd hb List.not_mem_nil
  | cons hhead htail ih =>
    rcases List.mem_cons.1 hb with rfl | hb
    · exact ⟨_, List.mem_cons_self, hhead⟩
    · obtain ⟨a, ha, hrel⟩ := ih hb
      exact ⟨a, List.mem_cons_of_mem _ ha, hrel⟩

/-- Written clauses with commas between them are read as a query, and none of them is ignored. -/
theorem compile_intercalate {clauses : List (Clause Column)} {texts : List String}
    (h : List.Forall₂ Clause.WrittenAs clauses texts) :
    compile (",".intercalate texts) = { dropped := [], result := .ok ⟨clauses⟩ } := by
  have hwritten : ∀ s ∈ texts, ∃ c ∈ clauses, c.WrittenAs s :=
    fun s hs ↦ exists_of_forall₂_of_mem h hs
  by_cases hnil : texts = []
  · subst hnil
    cases h
    rfl
  have hpieces : clauseTexts (",".intercalate texts) = texts := by
    apply clauseTexts_intercalate hnil
    · intro s hs
      obtain ⟨c, -, hc⟩ := hwritten s hs
      exact hc.no_comma
    · intro s hs
      obtain ⟨c, -, hc⟩ := hwritten s hs
      exact hc.strip_eq
  have hblank : Text.strip (",".intercalate texts).toList ≠ [] := by
    -- A blank text is one empty piece, and that is not the text of any clause.
    intro hstrip
    have hempty : texts = [""] := hpieces.symm.trans (clauseTexts_of_blank hstrip)
    obtain ⟨c, -, hc⟩ := hwritten "" (hempty ▸ List.mem_cons_self)
    have hread : (Reading.ofText "" : Reading Column) = .ignored .noOperator := rfl
    cases hread.symm.trans hc.ofText_eq
  rw [compile, if_neg (by rwa [List.isEmpty_iff]), hpieces]
  exact Compilation.ofClauses_of_forall₂ (h.imp fun _ _ hc ↦ hc.ofText_eq)

theorem Clause.Writes.compile_clauseText {c : Clause Column} {kind : Kind} {value : String}
    (h : c.Writes kind value) :
    compile (clauseText c.field c.op value) = { dropped := [], result := .ok ⟨[c]⟩ } := by
  have hcompile := compile_intercalate (.cons ⟨kind, value, h, rfl⟩ .nil)
  rwa [String.intercalate_singleton] at hcompile

theorem exists_prints {clauses : List (Clause Column)}
    (h : ∀ c ∈ clauses, ∃ kind value, c.Writes kind value) :
    ∃ printed, List.Forall₂ Clause.Prints clauses printed := by
  induction clauses with
  | nil => exact ⟨[], .nil⟩
  | cons c clauses ih =>
    obtain ⟨hc, hclauses⟩ := List.forall_mem_cons.1 h
    obtain ⟨kind, value, hwrites⟩ := hc
    obtain ⟨spelling, hspelling⟩ := hwrites.exists_spells
    obtain ⟨printed, hprinted⟩ := ih hclauses
    exact ⟨_ :: printed, .cons ⟨spelling, hspelling, rfl⟩ hprinted⟩

/-- A query that was read from an expression can be printed, and is read back from all that it is
printed as. No clause of the printed text is ignored. -/
theorem compile_printed {expression : String} {query : Query Column}
    (h : (compile expression).result = .ok query) :
    (∃ text, query.Prints text) ∧
      ∀ text, query.Prints text → compile text = { dropped := [], result := .ok query } := by
  have hwrites : ∀ c ∈ query.clauses, ∃ kind value, c.Writes kind value :=
    fun c hc ↦ exists_writes_of_compile h hc
  constructor
  · obtain ⟨printed, hprinted⟩ := exists_prints hwrites
    exact ⟨_, printed, hprinted, rfl⟩
  · rintro text ⟨printed, hprinted, rfl⟩
    apply compile_intercalate
    refine ((List.forall₂_and_left _ _).2 ⟨hwrites, hprinted⟩).imp ?_
    rintro c s ⟨⟨kind, value, hc⟩, spelling, hspelling, rfl⟩
    exact ⟨kind, spelling, hc.of_spells hspelling, rfl⟩

/-- Without its spaces the first clause would be read as one with `==`. -/
theorem compile_printed_margins :
    let query : Query Column := ⟨[⟨.name, .ne, .text "=go"⟩,
      ⟨.rating, .ge, .number (.float ⟨0xC004000000000000⟩)⟩, ⟨.year, .lt, .number (.integer (-7))⟩]⟩
    (compile " NAME != =go , RATING>=-2.50, weight > 3, yearPublished < -007").result = .ok query ∧
      query.Prints "name != =go,rating >= -25e-1,year < -7" ∧
      compile "name != =go,rating >= -25e-1,year < -7" =
        { dropped := [], result := .ok query } := by
  intro query
  have hcompile : (compile
      " NAME != =go , RATING>=-2.50, weight > 3, yearPublished < -007").result = .ok query := by
    decide +kernel
  have hfloat : Decimal.finite? "-25e-1".toList = some ⟨0xC004000000000000⟩ := by decide +kernel
  have hprints : query.Prints "name != =go,rating >= -25e-1,year < -7" :=
    ⟨["name != =go", "rating >= -25e-1", "year < -7"],
      .cons ⟨_, .text "=go", by decide +kernel⟩ (.cons ⟨_, .float hfloat, by decide +kernel⟩
        (.cons ⟨_, .integer (-7), by decide +kernel⟩ .nil)), by decide +kernel⟩
  exact ⟨hcompile, hprints, (compile_printed hcompile).2 _ hprints⟩

end GameShelf
