import GameShelf.Planner
import Mathlib.Control.Monad.Basic

/-!
# Expressions joined by a comma

Compiling two expressions with a comma between them is compiling the one and then the other: an
error on the left hides what follows it, and otherwise the clauses and the ignored texts are put
one after another. Filters join in the same way, so a filter of the joined expression is the one
filter after the other, and their order does not matter.

A blank expression has no clause of its own, but beside a comma it is an empty clause, which is
ignored.
-/

namespace GameShelf

namespace Query

variable {T F : Type} [Record T F]

/-- The query with the clauses of two queries. -/
def append (q r : Query F) : Query F :=
  ⟨q.clauses ++ r.clauses⟩

theorem accepts_append (q r : Query F) (t : T) :
    (q.append r).accepts t = (q.accepts t && r.accepts t) :=
  List.all_append

theorem filter_append (q r : Query F) (ts : List T) :
    (q.append r).filter ts = r.filter (q.filter ts) := by
  rw [filter, filter, filter, List.filter_filter]
  apply List.filter_congr
  intro t _
  rw [accepts_append, Bool.and_comm]

theorem filter_append_comm (q r : Query F) (ts : List T) :
    (q.append r).filter ts = (r.append q).filter ts := by
  apply List.filter_congr
  intro t _
  rw [accepts_append, accepts_append, Bool.and_comm]

end Query

namespace Compilation

variable {F : Type}

/-- One compilation after another, which is hidden when the first one fails. -/
def append (a b : Compilation F) : Compilation F :=
  match a.result with
  | .error _ => a
  | .ok q => { dropped := a.dropped ++ b.dropped, result := b.result.map q.append }

theorem empty_append (b : Compilation F) : empty.append b = b := by
  obtain ⟨dropped, result⟩ := b
  cases result <;> rfl

variable [Schema F]

theorem cons_append (clause : String) (a b : Compilation F) :
    (cons clause a).append b = cons clause (a.append b) := by
  obtain ⟨dropped, result⟩ := a
  unfold cons
  cases Reading.ofText (F := F) clause with
  | compiled c =>
    cases result with
    | error e => rfl
    | ok q => cases hb : b.result <;> simp [append, hb, Except.map, Query.append, Query.cons]
  | ignored reason => cases result <;> rfl
  | invalid e => rfl

/-- Clauses compile one after another, wherever their list is parted. -/
theorem ofClauses_append (cs ds : List String) :
    (ofClauses (cs ++ ds) : Compilation F) = (ofClauses cs).append (ofClauses ds) := by
  induction cs with
  | nil => exact (empty_append _).symm
  | cons c cs ih =>
    change cons c (ofClauses (cs ++ ds)) = (cons c (ofClauses cs)).append (ofClauses ds)
    rw [ih, cons_append]

end Compilation

theorem clauseTexts_join (e₁ e₂ : String) :
    clauseTexts (e₁ ++ "," ++ e₂) = clauseTexts e₁ ++ clauseTexts e₂ := by
  have hchars : (e₁ ++ "," ++ e₂).toList = e₁.toList ++ ',' :: e₂.toList := by simp
  rw [clauseTexts, hchars, List.splitOn_append_cons_self, List.map_append]
  rfl

theorem clauseTexts_of_blank {e : String} (h : Text.strip e.toList = []) :
    clauseTexts e = [""] := by
  have hcomma : ',' ∉ e.toList := by
    intro hmem
    rcases Text.isBlank_or_mem_strip hmem with hblank | hstrip
    · exact absurd hblank (by decide)
    · rw [h] at hstrip
      exact List.not_mem_nil hstrip
  rw [clauseTexts, List.splitOn_eq_singleton hcomma, List.map_singleton, h]

/-! ## The sides of a comma -/

section Sides

variable {F : Type} [Schema F]

/-- What an expression drops beside a comma, where a blank one is an empty clause. -/
def droppedBesideComma (e : String) : List (Dropped F) :=
  if (Text.strip e.toList).isEmpty then [{ clause := "", reason := .noOperator }]
  else (compile e).dropped

/-- The side of a comma yields the query or the error of its expression. -/
theorem ofClauses_clauseTexts (e : String) :
    (Compilation.ofClauses (clauseTexts e) : Compilation F) =
      { dropped := droppedBesideComma e, result := (compile e).result } := by
  by_cases h : Text.strip e.toList = []
  · rw [clauseTexts_of_blank h, droppedBesideComma, compile, h]
    rfl
  · have hne : (Text.strip e.toList).isEmpty = false := List.isEmpty_eq_false_iff.2 h
    rw [droppedBesideComma, compile, hne]
    rfl

theorem compile_eq_append (e₁ e₂ : String) :
    (compile (e₁ ++ "," ++ e₂) : Compilation F) =
      Compilation.append { dropped := droppedBesideComma e₁, result := (compile e₁).result }
        { dropped := droppedBesideComma e₂, result := (compile e₂).result } := by
  have hcomma : ',' ∈ Text.strip (e₁ ++ "," ++ e₂).toList :=
    (Text.isBlank_or_mem_strip (by simp)).resolve_left (by decide)
  have hne : (Text.strip (e₁ ++ "," ++ e₂).toList).isEmpty = false :=
    List.isEmpty_eq_false_iff.2 (List.ne_nil_of_mem hcomma)
  rw [← ofClauses_clauseTexts, ← ofClauses_clauseTexts, ← Compilation.ofClauses_append,
    ← clauseTexts_join, compile, hne]
  rfl

/-- A blank expression does not fail, so what fails drops the same beside a comma. -/
theorem droppedBesideComma_of_error {e : String} {error : QueryError}
    (h : (compile e : Compilation F).result = .error error) :
    droppedBesideComma e = (compile e : Compilation F).dropped := by
  unfold droppedBesideComma
  split
  · next hblank =>
    rw [compile, if_pos hblank] at h
    cases h
  · rfl

theorem compile_join_of_error {e₁ : String} {error : QueryError}
    (h₁ : (compile e₁ : Compilation F).result = .error error) (e₂ : String) :
    (compile (e₁ ++ "," ++ e₂) : Compilation F) =
      { dropped := (compile e₁ : Compilation F).dropped, result := .error error } := by
  rw [compile_eq_append, h₁, droppedBesideComma_of_error h₁]
  rfl

theorem compile_join_of_ok_error {e₁ e₂ : String} {q₁ : Query F} {error : QueryError}
    (h₁ : (compile e₁).result = .ok q₁) (h₂ : (compile e₂ : Compilation F).result = .error error) :
    (compile (e₁ ++ "," ++ e₂) : Compilation F) =
      { dropped := droppedBesideComma e₁ ++ (compile e₂ : Compilation F).dropped,
        result := .error error } := by
  rw [compile_eq_append, h₁, h₂, droppedBesideComma_of_error h₂]
  rfl

theorem compile_join_of_ok {e₁ e₂ : String} {q₁ q₂ : Query F}
    (h₁ : (compile e₁).result = .ok q₁) (h₂ : (compile e₂).result = .ok q₂) :
    (compile (e₁ ++ "," ++ e₂) : Compilation F) =
      { dropped := droppedBesideComma e₁ ++ droppedBesideComma e₂,
        result := .ok (q₁.append q₂) } := by
  rw [compile_eq_append, h₁, h₂]
  rfl

end Sides

/-! ## Joined filters -/

theorem filterGames_of_ok {e : String} {q : Query Column} (h : (compile e).result = .ok q)
    (games : List Game) : filterGames e games = .ok (q.filter games) := by
  rw [filterGames, h]
  rfl

theorem filterGames_of_error {e : String} {error : QueryError}
    (h : (compile e : Compilation Column).result = .error error) (games : List Game) :
    filterGames e games = .error error := by
  rw [filterGames, h]
  rfl

theorem filterGames_join (e₁ e₂ : String) (games : List Game) :
    filterGames (e₁ ++ "," ++ e₂) games = (filterGames e₁ games).bind (filterGames e₂) := by
  cases h₁ : (compile e₁ : Compilation Column).result with
  | error error =>
    rw [filterGames_of_error (congrArg _ (compile_join_of_error h₁ e₂)), filterGames_of_error h₁]
    rfl
  | ok q₁ =>
    cases h₂ : (compile e₂ : Compilation Column).result with
    | error error =>
      calc
        filterGames (e₁ ++ "," ++ e₂) games = .error error :=
          filterGames_of_error (congrArg _ (compile_join_of_ok_error h₁ h₂)) games
        _ = filterGames e₂ (q₁.filter games) := (filterGames_of_error h₂ _).symm
        _ = (filterGames e₁ games).bind (filterGames e₂) := by
          rw [filterGames_of_ok h₁]
          rfl
    | ok q₂ =>
      calc
        filterGames (e₁ ++ "," ++ e₂) games = .ok ((q₁.append q₂).filter games) :=
          filterGames_of_ok (congrArg _ (compile_join_of_ok h₁ h₂)) games
        _ = .ok (q₂.filter (q₁.filter games)) := by rw [Query.filter_append]
        _ = filterGames e₂ (q₁.filter games) := (filterGames_of_ok h₂ _).symm
        _ = (filterGames e₁ games).bind (filterGames e₂) := by
          rw [filterGames_of_ok h₁]
          rfl

theorem filterGames_join_comm {e₁ e₂ : String} {q₁ q₂ : Query Column}
    (h₁ : (compile e₁).result = .ok q₁) (h₂ : (compile e₂).result = .ok q₂) (games : List Game) :
    filterGames (e₁ ++ "," ++ e₂) games = filterGames (e₂ ++ "," ++ e₁) games := by
  rw [filterGames_of_ok (congrArg _ (compile_join_of_ok h₁ h₂)), Query.filter_append_comm]
  exact (filterGames_of_ok (congrArg _ (compile_join_of_ok h₂ h₁)) games).symm

/-- An expression joined by a comma compiles to the first error of its sides, or to the clauses of
both. Filtering with it is filtering with the one side and then with the other, in either order
when none of them fails. -/
theorem compile_join (e₁ e₂ : String) (games : List Game) :
    (∀ error, (compile e₁ : Compilation Column).result = .error error →
      compile (e₁ ++ "," ++ e₂) =
        { dropped := (compile e₁ : Compilation Column).dropped, result := .error error }) ∧
    (∀ (q₁ : Query Column) (error : QueryError), (compile e₁).result = .ok q₁ →
      (compile e₂ : Compilation Column).result = .error error →
      compile (e₁ ++ "," ++ e₂) =
        { dropped := droppedBesideComma e₁ ++ (compile e₂ : Compilation Column).dropped,
          result := .error error }) ∧
    (∀ q₁ q₂ : Query Column, (compile e₁).result = .ok q₁ → (compile e₂).result = .ok q₂ →
      compile (e₁ ++ "," ++ e₂) =
        { dropped := droppedBesideComma e₁ ++ droppedBesideComma e₂,
          result := .ok ⟨q₁.clauses ++ q₂.clauses⟩ }) ∧
    filterGames (e₁ ++ "," ++ e₂) games = (filterGames e₁ games).bind (filterGames e₂) ∧
    ∀ q₁ q₂ : Query Column, (compile e₁).result = .ok q₁ → (compile e₂).result = .ok q₂ →
      filterGames (e₁ ++ "," ++ e₂) games = filterGames (e₂ ++ "," ++ e₁) games :=
  ⟨fun _ h₁ ↦ compile_join_of_error h₁ e₂, fun _ _ h₁ h₂ ↦ compile_join_of_ok_error h₁ h₂,
    fun _ _ h₁ h₂ ↦ compile_join_of_ok h₁ h₂, filterGames_join e₁ e₂ games,
    fun _ _ h₁ h₂ ↦ filterGames_join_comm h₁ h₂ games⟩

/-- A failing left side, a failing right side beside a blank one, and a blank right side. -/
theorem compile_join_instances :
    compile ("year > x" ++ "," ++ "id < 2") =
      ({ dropped := [], result := .error (.invalidValue "year" "x" .integer) } :
        Compilation Column) ∧
    compile (" " ++ "," ++ "id < 2, year > x") =
      ({ dropped := [{ clause := "", reason := .noOperator },
           { clause := "id < 2", reason := .unknownField "id" }],
         result := .error (.invalidValue "year" "x" .integer) } : Compilation Column) ∧
    compile ("name != Go" ++ "," ++ " ") =
      ({ dropped := [{ clause := "", reason := .noOperator }],
         result := .ok ⟨[{ field := .name, op := .ne, literal := .text "Go" }]⟩ } :
        Compilation Column) ∧
    filterGames ("name != Go" ++ "," ++ " ") [Game.named "go"] =
      filterGames (" " ++ "," ++ "name != Go") [Game.named "go"] := by
  have hleft : (compile "year > x" : Compilation Column).result =
      .error (.invalidValue "year" "x" .integer) := by
    decide +kernel
  have hright : (compile "id < 2, year > x" : Compilation Column).result =
      .error (.invalidValue "year" "x" .integer) := by
    decide +kernel
  have hblank : (compile " " : Compilation Column).result = .ok ⟨[]⟩ := by decide +kernel
  have hok : (compile "name != Go" : Compilation Column).result =
      .ok ⟨[{ field := .name, op := .ne, literal := .text "Go" }]⟩ := by
    decide +kernel
  have hfirst := (compile_join "year > x" "id < 2" []).1 _ hleft
  have hsecond := (compile_join " " "id < 2, year > x" []).2.1 _ _ hblank hright
  have hboth := (compile_join "name != Go" " " []).2.2.1 _ _ hok hblank
  have hswap := (compile_join "name != Go" " " [Game.named "go"]).2.2.2.2 _ _ hok hblank
  refine ⟨hfirst.trans ?_, hsecond.trans ?_, hboth.trans ?_, hswap⟩
  · rw [show (compile "year > x" : Compilation Column).dropped = [] by decide +kernel]
  · rw [show droppedBesideComma " " ++ (compile "id < 2, year > x" : Compilation Column).dropped =
      [{ clause := "", reason := .noOperator },
        { clause := "id < 2", reason := .unknownField "id" }] by decide +kernel]
  · rw [show (droppedBesideComma "name != Go" ++ droppedBesideComma " " : List (Dropped Column)) =
      [{ clause := "", reason := .noOperator }] by decide +kernel]
    rfl

end GameShelf
