import GameShelf.Proofs.Query.Clause
import GameShelf.Proofs.Query.Kind
import Mathlib.Logic.ExistsUnique

/-!
# Operators that agree with each other

A clause may compare things that have no order or that its operator does not apply to; then it
never matches, and neither does its opposite. A clause that was read is not of that sort: its
literal has the kind of its field, a game holds a value of that kind there, and the operator
applies to the kind. So each of its operators means what it says of the others: `!=` is the
opposite of `==`, and the comparisons of numbers split into those that are less, those that are
equal and those that are greater. Only a NaN is none of these, and it differs from every number.
-/

namespace GameShelf

/-! ## Comparisons of numbers -/

namespace Number

/-- A NaN has no place in the order by value. -/
theorem compare?_of_isNaN {x : Binary64} (h : x.isNaN = true) (n : Number) :
    (float x).compare? n = none := by
  have hcompare : (float x).compare? n = Binary64.partialCompare x n.toBinary64 := by
    cases n <;> rfl
  rw [hcompare, Binary64.partialCompare, h, Bool.true_or, if_pos rfl]

end Number

namespace Operator

variable {a b : Number}

theorem matchesNumber_of_compare? {o : Ordering} (h : a.compare? b = some o) (op : Operator) :
    op.matchesNumber a b = op.holds o := by
  rw [matchesNumber, h]

theorem matchesNumber_of_compare?_eq_none (h : a.compare? b = none) (op : Operator) :
    op.matchesNumber a b = (op == ne) := by
  rw [matchesNumber, h]

theorem matchesNumber_ne (a b : Number) : ne.matchesNumber a b = !eq.matchesNumber a b := by
  cases h : a.compare? b with
  | none =>
    rw [matchesNumber_of_compare?_eq_none h, matchesNumber_of_compare?_eq_none h]
    rfl
  | some o =>
    rw [matchesNumber_of_compare? h, matchesNumber_of_compare? h]
    cases o <;> rfl

/-- Two operators that together say what a third one says, of every order and of no order. -/
theorem matchesNumber_eq_or {op op₁ op₂ : Operator}
    (h : ∀ o, op.holds o = (op₁.holds o || op₂.holds o))
    (hnone : (op == ne) = (op₁ == ne || op₂ == ne)) (a b : Number) :
    op.matchesNumber a b = (op₁.matchesNumber a b || op₂.matchesNumber a b) := by
  cases hcompare : a.compare? b with
  | none => simp only [matchesNumber_of_compare?_eq_none hcompare, hnone]
  | some o => simp only [matchesNumber_of_compare? hcompare, h]

/-- Two things in an order are in exactly one of its three positions. -/
theorem existsUnique_holds (o : Ordering) :
    ∃! op, op ∈ [Operator.lt, .eq, .gt] ∧ op.holds o = true := by
  cases o with
  | lt => exact ⟨.lt, by decide, by rintro ⟨⟩ <;> decide⟩
  | eq => exact ⟨.eq, by decide, by rintro ⟨⟩ <;> decide⟩
  | gt => exact ⟨.gt, by decide, by rintro ⟨⟩ <;> decide⟩

theorem matchesText_ne (s pattern : String) :
    ne.matchesText s pattern = !eq.matchesText s pattern := rfl

end Operator

/-! ## Clauses that were read -/

/-- A record holds a value of a kind in the field of a clause, the literal is of that kind too, and
the operator applies to it. -/
inductive Clause.WellTyped {T F : Type} [Record T F] (c : Clause F) (r : T) : Kind → Prop where
  | text {s pattern : String} (hvalue : Record.value r c.field = .text s)
      (hliteral : c.literal = .text pattern) (happlies : c.op.isText = true) : WellTyped c r .text
  | number {a b : Number} (hvalue : Record.value r c.field = .number a)
      (hliteral : c.literal = .number b) (hkind : a.kind = b.kind)
      (happlies : c.op.isNumeric = true) : WellTyped c r b.kind

/-- What a clause is read as has an operator that applies to its field and a literal of its kind. -/
theorem Reading.exists_kind_of_eq_compiled {F : Type} [Schema F] {s : String} {c : Clause F}
    (h : ofText s = compiled c) :
    ∃ kind value, Schema.kind? c.field = some kind ∧ c.op.appliesTo kind = true ∧
      Literal.ofText? kind value = some c.literal := by
  have hkept : ∀ reason, (ofText s : Reading F) ≠ ignored reason := by
    intro reason
    rw [h]
    exact fun heq ↦ nomatch heq
  obtain ⟨before, op, rest, -, -, hparts⟩ := exists_parts_of_not_ignored hkept
  obtain ⟨kind, hop, hkind, happlies, hliteral⟩ :=
    exists_of_ofParts_eq_compiled (hparts.symm.trans h)
  exact ⟨kind, _, hkind, hop ▸ happlies, hliteral⟩

namespace Column

/-- A game holds a text in a column of texts. -/
theorem exists_text {column : Column} (h : column.kind? = some .text) (game : Game) :
    ∃ s, Record.value game column = .text s := by
  cases column with
  | name => exact ⟨_, rfl⟩
  | minPlayers | maxPlayers | difficulty | rating | year => cases h
  | id | minTime | maxTime | rank => cases h

end Column

/-- No clause compares with a NaN. -/
theorem isNaN_of_eq_compiled {F : Type} [Schema F] {s : String} {c : Clause F}
    (h : Reading.ofText s = .compiled c) {n : Number} (hliteral : c.literal = .number n) :
    n.isNaN = false := by
  obtain ⟨kind, value, -, -, hread⟩ := Reading.exists_kind_of_eq_compiled h
  rw [hliteral] at hread
  exact Literal.isNaN_of_ofText? hread

/-- Every game holds a value that a clause that was read can be compared with. -/
theorem wellTyped_of_eq_compiled {s : String} {c : Clause Column}
    (h : Reading.ofText s = .compiled c) (game : Game) :
    ∃ kind, c.field.kind? = some kind ∧ c.WellTyped game kind := by
  obtain ⟨kind, value, hkind, happlies, hliteral⟩ := Reading.exists_kind_of_eq_compiled h
  refine ⟨kind, hkind, ?_⟩
  cases hread : c.literal with
  | text pattern =>
    rw [hread] at hliteral
    obtain ⟨rfl, -⟩ := Reading.eq_of_ofText?_text hliteral
    obtain ⟨s, hs⟩ := Column.exists_text hkind game
    exact .text hs hread happlies
  | number n =>
    rw [hread] at hliteral
    obtain rfl := Literal.kind_of_ofText? hliteral
    have hnumeric : n.kind ≠ .text := by
      cases n <;> exact nofun
    obtain ⟨m, hm, hmkind⟩ := Column.exists_number hkind hnumeric game
    refine .number hm hread hmkind ?_
    cases n <;> exact happlies

/-- A clause that was read compares a field of a kind with a literal of that kind, by an operator
that applies to it, and every game holds a value of the kind there. With its field and its literal,
`!=` is the opposite of `==`. Of numbers, `>=` is `>` or `==`, and `<=` is `<` or `==`; exactly one
of `<`, `==` and `>` matches a game unless it holds a NaN, which only `!=` matches. -/
theorem accepts_coherent {s : String} {c : Clause Column} (h : Reading.ofText s = .compiled c)
    (game : Game) :
    let accepts (op : Operator) : Bool := ({ c with op } : Clause Column).accepts game
    ∃ kind, c.field.kind? = some kind ∧ c.WellTyped game kind ∧
      accepts .ne = !accepts .eq ∧
      (kind ≠ .text →
        accepts .ge = (accepts .gt || accepts .eq) ∧
        accepts .le = (accepts .lt || accepts .eq) ∧
        ((∀ x, Record.value game c.field = .number (.float x) → x.isNaN = false) →
          ∃! op, op ∈ [Operator.lt, .eq, .gt] ∧ accepts op = true) ∧
        ∀ x, Record.value game c.field = .number (.float x) → x.isNaN = true →
          ∀ op, accepts op = (op == .ne)) := by
  intro accepts
  obtain ⟨kind, hkind, htyped⟩ := wellTyped_of_eq_compiled h game
  refine ⟨kind, hkind, htyped, ?_⟩
  cases htyped with
  | @text s pattern hvalue hliteral =>
    have haccepts (op : Operator) : accepts op = op.matchesText s pattern := by
      change op.compares (Record.value game c.field) c.literal = _
      rw [hvalue, hliteral]
      rfl
    rw [haccepts, haccepts]
    exact ⟨Operator.matchesText_ne s pattern, fun htext ↦ absurd rfl htext⟩
  | @number a b hvalue hliteral hsame =>
    have haccepts (op : Operator) : accepts op = op.matchesNumber a b := by
      change op.compares (Record.value game c.field) c.literal = _
      rw [hvalue, hliteral]
      rfl
    simp only [haccepts, hvalue, Value.number.injEq]
    refine ⟨Operator.matchesNumber_ne a b, fun _ ↦ ⟨?_, ?_, ?_, ?_⟩⟩
    · exact Operator.matchesNumber_eq_or (fun o ↦ by cases o <;> rfl) rfl a b
    · exact Operator.matchesNumber_eq_or (fun o ↦ by cases o <;> rfl) rfl a b
    · intro hnumber
      have ha : a.isNaN = false := by
        cases a with
        | integer m => rfl
        | float x => exact hnumber x rfl
      have hcompare := Number.compare?_eq_some hsame ha (isNaN_of_eq_compiled h hliteral)
      simp only [Operator.matchesNumber_of_compare? hcompare]
      exact Operator.existsUnique_holds _
    · rintro x rfl hnan op
      exact Operator.matchesNumber_of_compare?_eq_none (Number.compare?_of_isNaN hnan b) op

/-- An infinite rating is greater than every number that a clause can be compared with, and a NaN
only differs from it, whatever the sign bits are. -/
theorem accepts_coherent_extremes :
    let clause : Clause Column := ⟨.rating, .le, .number (.float ⟨0xBFE0000000000000⟩)⟩
    let accepts (op : Operator) (bits : UInt64) : Bool :=
      ({ clause with op } : Clause Column).accepts { Game.named "Go" with rating := ⟨bits⟩ }
    Reading.ofText "Rating <= -.5e0" = .compiled clause ∧
      (∃! op, op ∈ [Operator.lt, .eq, .gt] ∧ accepts op 0x7FF0000000000000 = true) ∧
      ∀ op, accepts op 0xFFF8000000000001 = (op == .ne) := by
  intro clause accepts
  have hread : Reading.ofText "Rating <= -.5e0" = .compiled clause := by decide +kernel
  refine ⟨hread, ?_, ?_⟩
  · obtain ⟨kind, hkind, -, -, hnumber⟩ :=
      accepts_coherent hread { Game.named "Go" with rating := ⟨0x7FF0000000000000⟩ }
    obtain rfl : Kind.float = kind := Option.some.inj hkind
    apply (hnumber (by decide)).2.2.1
    rintro x ⟨⟩
    decide +kernel
  · obtain ⟨kind, hkind, -, -, hnumber⟩ :=
      accepts_coherent hread { Game.named "Go" with rating := ⟨0xFFF8000000000001⟩ }
    obtain rfl : Kind.float = kind := Option.some.inj hkind
    exact (hnumber (by decide)).2.2.2 _ rfl (by decide +kernel)

end GameShelf
