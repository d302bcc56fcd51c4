import GameShelf.Query.Clause

/-!
# Queries

A query is a conjunction of clauses. A record matches it when it satisfies each of them, and every
record matches the query without clauses.
-/

namespace GameShelf

/-- A conjunction of clauses. -/
structure Query (F : Type) where
  clauses : List (Clause F)
deriving DecidableEq, Repr

namespace Query

variable {T F : Type} [Record T F]

def cons (c : Clause F) (q : Query F) : Query F :=
  ⟨c :: q.clauses⟩

def isEmpty (q : Query F) : Bool :=
  q.clauses.isEmpty

def accepts (q : Query F) (r : T) : Bool :=
  q.clauses.all (·.accepts r)

def filter (q : Query F) (rs : List T) : List T :=
  rs.filter q.accepts

def count (q : Query F) (rs : List T) : Nat :=
  rs.countP q.accepts

theorem accepts_iff {q : Query F} {r : T} :
    q.accepts r = true ↔ ∀ c ∈ q.clauses, c.accepts r = true := by
  simp [accepts]

theorem mem_filter {q : Query F} {rs : List T} {r : T} :
    r ∈ q.filter rs ↔ r ∈ rs ∧ ∀ c ∈ q.clauses, c.accepts r = true := by
  simp [filter, accepts_iff]

/-- The count is the number of records that the filter keeps. -/
theorem count_eq_length_filter (q : Query F) (rs : List T) :
    q.count rs = (q.filter rs).length :=
  List.countP_eq_length_filter

end Query

end GameShelf
