import GameShelf.Game.Column
import GameShelf.Proofs.Binary64.Order
import GameShelf.Proofs.Numeral.Digits
import GameShelf.Query.Expression

/-!
# Numbers of one kind

A literal has the kind that it is read for, and a game holds a number of the kind of its column. So
a clause compares numbers of one kind, and neither comparison rounds anything: both the order by
value and the order for sorting are told by one whole number, the value itself or the multiple of
`2⁻¹⁰⁷⁴` that it is.
-/

namespace GameShelf

namespace Number

def kind : Number → Kind
  | integer _ => .integer
  | float _ => .float

def isNaN : Number → Bool
  | integer _ => false
  | float x => x.isNaN

theorem isNaN_toBinary64 (n : Number) : n.toBinary64.isNaN = n.isNaN := by
  cases n with
  | integer m => exact Binary64.isNaN_ofRatio _ _ _
  | float x => rfl

/-- What numbers of one kind are compared by. -/
def scaled : Number → Int
  | integer n => n
  | float x => x.scaled

variable {a b : Number}

/-- Numbers of one kind that are not NaN are ordered by value. -/
theorem compare?_eq_some (h : a.kind = b.kind) (ha : a.isNaN = false) (hb : b.isNaN = false) :
    a.compare? b = some (compare a.scaled b.scaled) := by
  cases a with
  | integer m =>
    cases b with
    | integer n => rfl
    | float y => cases h
  | float x =>
    cases b with
    | integer n => cases h
    | float y =>
      change Binary64.partialCompare x y = some (compare x.scaled y.scaled)
      rw [Binary64.partialCompare, show x.isNaN = false from ha, show y.isNaN = false from hb]
      rfl

/-- Among numbers of one kind, the order for sorting never goes against the order by value. -/
theorem scaled_le_of_totalCompare (h : a.kind = b.kind) (hle : (a.totalCompare b).isLE = true) :
    a.scaled ≤ b.scaled := by
  cases a with
  | integer m =>
    cases b with
    | integer n => exact Std.isLE_compare.1 hle
    | float y => cases h
  | float x =>
    cases b with
    | integer n => cases h
    | float y =>
      apply Binary64.scaled_le_of_rank_le
      exact Std.isLE_compare.1 hle

end Number

namespace Literal

variable {kind : Kind} {s : String} {n : Number}

/-- A number that is read for a kind has that kind. -/
theorem kind_of_ofText? (h : ofText? kind s = some (.number n)) : n.kind = kind := by
  cases kind with
  | text => cases h
  | integer =>
    obtain ⟨m, -, hn⟩ := Option.map_eq_some_iff.1 h
    cases hn
    rfl
  | float =>
    obtain ⟨x, -, hn⟩ := Option.map_eq_some_iff.1 h
    cases hn
    rfl

theorem isNaN_of_ofText? (h : ofText? kind s = some (.number n)) : n.isNaN = false := by
  cases kind with
  | text => cases h
  | integer =>
    obtain ⟨m, -, hn⟩ := Option.map_eq_some_iff.1 h
    cases hn
    rfl
  | float =>
    obtain ⟨x, hx, hn⟩ := Option.map_eq_some_iff.1 h
    cases hn
    exact Binary64.isNaN_of_isFinite (Decimal.isFinite_of_finite? hx)

/-- What is read as a number is one or more characters that can stand in a number. -/
theorem isMark_of_ofText? (h : ofText? kind s = some (.number n)) :
    s.toList.all Numeral.isMark = true ∧ s.toList ≠ [] := by
  cases kind with
  | text => cases h
  | integer =>
    obtain ⟨m, hm, -⟩ := Option.map_eq_some_iff.1 h
    have hread := (Option.filter_eq_some_iff.1 hm).1
    exact ⟨Numeral.all_isMark_of_integer? hread, Numeral.ne_nil_of_integer? hread⟩
  | float =>
    obtain ⟨x, hx, -⟩ := Option.map_eq_some_iff.1 h
    exact ⟨Decimal.all_isMark_of_finite? hx, Decimal.ne_nil_of_finite? hx⟩

end Literal

namespace Column

/-- A game holds a number of the kind of a column of numbers. -/
theorem exists_number {column : Column} {kind : Kind} (h : column.kind? = some kind)
    (hkind : kind ≠ .text) (game : Game) :
    ∃ n, Record.value game column = .number n ∧ n.kind = kind := by
  cases column with
  | name =>
    cases h
    exact absurd rfl hkind
  | minPlayers | maxPlayers | difficulty | rating | year =>
    cases h
    exact ⟨_, rfl, rfl⟩
  | id | minTime | maxTime | rank => cases h

end Column

end GameShelf
