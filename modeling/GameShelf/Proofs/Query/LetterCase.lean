import GameShelf.Proofs.Numeral.LetterCase
import GameShelf.Proofs.Query.FirstOperator
import GameShelf.Proofs.Query.Join
import Mathlib.Data.List.Forall2

/-!
# Filters in either letter case

Reading commutes with lower case: what an expression in lower case is read as is what the expression
is read as, with all texts in it in lower case. A clause with its text in lower case matches the same
records. So expressions whose pieces differ in letter case and outer blanks alone are read as the
same query up to letter case, or fail on the same column, and they filter alike.
-/

namespace GameShelf

/-! ## Lower case -/

/-- The literal with a text in lower case. -/
def Literal.fold : Literal → Literal
  | text s => text (Text.fold s)
  | number n => number n

def Clause.fold {F : Type} (c : Clause F) : Clause F :=
  { c with literal := c.literal.fold }

def Query.fold {F : Type} (q : Query F) : Query F :=
  ⟨q.clauses.map Clause.fold⟩

/-- The error with the value that it quotes in lower case. -/
def QueryError.fold : QueryError → QueryError
  | invalidValue field value expected => invalidValue field (Text.fold value) expected
  | unsupportedSort name => unsupportedSort name

def Skip.fold {F : Type} : Skip F → Skip F
  | noOperator => noOperator
  | malformed => malformed
  | unknownField name => unknownField (Text.fold name)
  | unsupportedOperator field op => unsupportedOperator field op

def Reading.fold {F : Type} : Reading F → Reading F
  | compiled c => compiled c.fold
  | ignored reason => ignored reason.fold
  | invalid e => invalid e.fold

def foldResult {F : Type} (r : Except QueryError (Query F)) : Except QueryError (Query F) :=
  (r.map Query.fold).mapError QueryError.fold

def Compilation.fold {F : Type} (a : Compilation F) : Compilation F where
  dropped := a.dropped.map fun d ↦ { clause := Text.fold d.clause, reason := d.reason.fold }
  result := foldResult a.result

/-! ## Readings -/

namespace Operator

theorem isAlpha_of_mem_token {c : Char} {op : Operator} (h : c ∈ op.token) :
    c.isAlpha = false := by
  rw [← Char.isLower_toLower_eq_isAlpha]
  exact isLower_toLower_of_mem_token h

theorem find?_map_toLower (cs : List Char) : find? (cs.map Char.toLower) = find? cs := by
  unfold find?
  congr 1
  funext op
  exact Text.occurs_map_toLower (fun _ hc ↦ isAlpha_of_mem_token hc) cs

end Operator

theorem Literal.ofText?_fold (kind : Kind) (s : String) :
    ofText? kind (Text.fold s) = (ofText? kind s).map fold := by
  cases kind with
  | text => rfl
  | integer =>
    rw [ofText?, Text.toList_fold, Numeral.integer?_map_toLower, ofText?, Option.map_map]
    rfl
  | float =>
    rw [ofText?, Text.toList_fold, Decimal.finite?_map_toLower, ofText?, Option.map_map]
    rfl

theorem Column.queryable?_fold (name : String) :
    (Schema.queryable? (Text.fold name) : Option (Column × Kind)) = Schema.queryable? name := by
  have hname : ofName? (Text.fold name) = ofName? name := by
    rw [ofName?, Text.trim_fold, Text.fold_fold, ofName?]
  exact congrArg (Option.bind · _) hname

namespace Reading

theorem ofParts_fold (name : String) (op : Operator) (value : String) :
    (ofParts (Text.fold name) op (Text.fold value) : Reading Column) =
      (ofParts name op value).fold := by
  rw [ofParts, Column.queryable?_fold, ofParts]
  cases Schema.queryable? (F := Column) name with
  | none => rfl
  | some queried =>
    obtain ⟨field, kind⟩ := queried
    dsimp only
    rw [Literal.ofText?_fold]
    cases op.appliesTo kind with
    | false => rfl
    | true => cases Literal.ofText? kind value <;> rfl

/-- Reading commutes with lower case. -/
theorem ofText_fold (s : String) : (ofText (Text.fold s) : Reading Column) = (ofText s).fold := by
  rw [ofText, Text.toList_fold, Operator.find?_map_toLower, ofText]
  cases Operator.find? s.toList with
  | none => rfl
  | some op =>
    dsimp only
    rw [Text.splitOnce?_map_toLower fun _ hc ↦ Operator.isAlpha_of_mem_token hc]
    cases Text.splitOnce? op.token s.toList with
    | none => rfl
    | some parts =>
      obtain ⟨before, rest⟩ := parts
      rw [Option.map_some]
      dsimp only
      rw [Text.strip_map_toLower, Text.strip_map_toLower, List.isEmpty_map, List.isEmpty_map,
        ← Text.fold_ofList, ← Text.fold_ofList, ofParts_fold]
      split
      · rfl
      · rfl

end Reading

namespace Compilation

theorem cons_fold (clause : String) (rest : Compilation Column) :
    cons (Text.fold clause) rest.fold = (cons clause rest).fold := by
  rw [cons, Reading.ofText_fold, cons]
  cases Reading.ofText (F := Column) clause with
  | compiled c =>
    obtain ⟨dropped, result⟩ := rest
    cases result <;> rfl
  | ignored reason => rfl
  | invalid e => rfl

theorem ofClauses_fold (texts : List String) :
    (ofClauses (texts.map Text.fold) : Compilation Column) = (ofClauses texts).fold := by
  calc
    ofClauses (texts.map Text.fold) =
        texts.foldr (fun text ↦ cons (Text.fold text)) (fold empty) := by
      rw [ofClauses, List.foldr_map]
      rfl
    _ = (texts.foldr cons empty).fold := List.foldr_hom fold cons_fold
    _ = (ofClauses texts).fold := by rw [ofClauses]

end Compilation

/-! ## Matches -/

section Matches

variable {T F : Type} [Record T F]

theorem Operator.matchesText_fold (op : Operator) (s pattern : String) :
    op.matchesText s (Text.fold pattern) = op.matchesText s pattern := by
  unfold matchesText
  rw [Text.equalFold_fold, Text.fold_fold]

theorem Operator.compares_fold (op : Operator) (v : Value) (l : Literal) :
    op.compares v l.fold = op.compares v l := by
  cases l with
  | number n => rfl
  | text pattern =>
    cases v with
    | text s => exact op.matchesText_fold s pattern
    | number n => rfl
    | absent => rfl

/-- A query with its texts in lower case matches the same records. -/
theorem Query.accepts_fold (q : Query F) (r : T) : q.fold.accepts r = q.accepts r := by
  unfold accepts fold
  rw [List.all_map]
  congr 1
  funext c
  exact c.op.compares_fold (Record.value r c.field) c.literal

theorem Query.filter_fold (q : Query F) (rs : List T) : q.fold.filter rs = q.filter rs :=
  List.filter_congr fun r _ ↦ q.accepts_fold r

end Matches

/-! ## Agreement up to letter case -/

/-- Two literals are the same number, or texts that agree up to letter case. -/
inductive Literal.EqualFold : Literal → Literal → Prop where
  | text {s t : String} : Text.equalFold s t = true → EqualFold (.text s) (.text t)
  | number (n : Number) : EqualFold (.number n) (.number n)

/-- Two clauses have the same field and operator, and literals that agree up to letter case. -/
structure Clause.EqualFold {F : Type} (c d : Clause F) : Prop where
  field_eq : c.field = d.field
  op_eq : c.op = d.op
  literal : c.literal.EqualFold d.literal

theorem Literal.equalFold_of_fold_eq {l m : Literal} (h : l.fold = m.fold) : l.EqualFold m := by
  cases l with
  | text s =>
    cases m with
    | text t => exact .text (Text.equalFold_iff_fold_eq.2 (Literal.text.inj h))
    | number n => cases h
  | number n =>
    cases m with
    | text t => cases h
    | number k =>
      obtain rfl : n = k := Literal.number.inj h
      exact .number n

theorem Clause.equalFold_of_fold_eq {F : Type} {c d : Clause F} (h : c.fold = d.fold) :
    c.EqualFold d := by
  obtain ⟨hfield, hop, hliteral⟩ := Clause.mk.inj h
  exact ⟨hfield, hop, Literal.equalFold_of_fold_eq hliteral⟩

theorem Query.forall₂_of_fold_eq {F : Type} {q r : Query F} (h : q.fold = r.fold) :
    List.Forall₂ Clause.EqualFold q.clauses r.clauses := by
  have hclauses : List.Forall₂ Eq (q.clauses.map Clause.fold) (r.clauses.map Clause.fold) := by
    rw [List.forall₂_eq_eq_eq]
    exact congrArg Query.clauses h
  rw [List.forall₂_map_left_iff, List.forall₂_map_right_iff] at hclauses
  exact hclauses.imp fun _ _ ↦ Clause.equalFold_of_fold_eq

/-! ## Errors -/

section Errors

variable {F : Type} [Schema F]

/-- A clause fails only when its value is none of its field. -/
theorem Reading.exists_invalidValue {s : String} {e : QueryError}
    (h : (ofText s : Reading F) = invalid e) :
    ∃ (field : F) (value : String) (kind : Kind),
      e = .invalidValue (Schema.name field) value kind := by
  have hkept : ∀ reason, (ofText s : Reading F) ≠ ignored reason := by
    intro reason hignored
    cases h.symm.trans hignored
  obtain ⟨before, op, rest, -, -, hparts⟩ := exists_parts_of_not_ignored hkept
  rw [hparts] at hkept h
  obtain ⟨field, -, hmeans⟩ := means_ofParts hkept
  rw [h] at hmeans
  cases hmeans with
  | invalid => exact ⟨field, _, _, rfl⟩

theorem Compilation.exists_invalidValue {texts : List String} {e : QueryError}
    (h : (ofClauses texts : Compilation F).result = .error e) :
    ∃ (field : F) (value : String) (kind : Kind),
      e = .invalidValue (Schema.name field) value kind := by
  induction texts with
  | nil => cases h
  | cons text texts ih =>
    have hcons : (cons text (ofClauses texts) : Compilation F).result = .error e := h
    unfold cons at hcons
    cases htext : (Reading.ofText text : Reading F) with
    | invalid e' =>
      rw [htext] at hcons
      obtain rfl : e' = e := Except.error.inj hcons
      exact Reading.exists_invalidValue htext
    | ignored reason =>
      rw [htext] at hcons
      exact ih hcons
    | compiled c =>
      rw [htext] at hcons
      dsimp only at hcons
      cases hrest : (ofClauses texts : Compilation F).result with
      | error e' =>
        rw [hrest] at hcons
        obtain rfl : e' = e := Except.error.inj hcons
        exact ih hrest
      | ok q =>
        rw [hrest] at hcons
        cases hcons

end Errors

/-! ## Expressions -/

def pieces (expression : String) : List String :=
  (expression.toList.splitOn ',').map String.ofList

/-- Two expressions have the same pieces between commas, up to letter case and the blanks at either
end of each piece. -/
def SamePieces (e e' : String) : Prop :=
  List.Forall₂ (fun p p' ↦ Text.equalFold (Text.trim p) (Text.trim p') = true) (pieces e)
    (pieces e')

theorem clauseTexts_eq_map_trim (e : String) : clauseTexts e = (pieces e).map Text.trim := by
  rw [clauseTexts, pieces, List.map_map]
  apply List.map_congr_left
  intro piece _
  rw [Function.comp_apply, Text.trim, String.toList_ofList]

theorem SamePieces.map_fold_clauseTexts {e e' : String} (h : SamePieces e e') :
    (clauseTexts e).map Text.fold = (clauseTexts e').map Text.fold := by
  rw [clauseTexts_eq_map_trim, clauseTexts_eq_map_trim, ← List.forall₂_eq_eq_eq]
  rw [List.forall₂_map_left_iff, List.forall₂_map_right_iff, List.forall₂_map_left_iff,
    List.forall₂_map_right_iff]
  exact h.imp fun _ _ ↦ Text.equalFold_iff_fold_eq.1

theorem result_ofClauses_clauseTexts (e : String) :
    (Compilation.ofClauses (clauseTexts e) : Compilation Column).result = (compile e).result := by
  rw [ofClauses_clauseTexts]

/-- Expressions with the same pieces are read as the same query or error up to letter case. -/
theorem SamePieces.foldResult_eq {e e' : String} (h : SamePieces e e') :
    foldResult (compile e : Compilation Column).result =
      foldResult (compile e' : Compilation Column).result := by
  have hclauses : (Compilation.ofClauses (clauseTexts e) : Compilation Column).fold =
      (Compilation.ofClauses (clauseTexts e')).fold := by
    rw [← Compilation.ofClauses_fold, h.map_fold_clauseTexts, Compilation.ofClauses_fold]
  rw [← result_ofClauses_clauseTexts, ← result_ofClauses_clauseTexts]
  exact congrArg Compilation.result hclauses

theorem exists_foldResult_eq_error_iff {F : Type} (r : Except QueryError (Query F)) :
    (∃ error, foldResult r = .error error) ↔ ∃ error, r = .error error := by
  cases r with
  | error error => simp [foldResult, Except.map, Except.mapError]
  | ok query => simp [foldResult, Except.map, Except.mapError]

/-- A filter yields what the query in lower case yields. -/
theorem filterGames_mapError_fold (e : String) (games : List Game) :
    (filterGames e games).mapError QueryError.fold =
      (foldResult (compile e).result).map fun query ↦ query.filter games := by
  rw [filterGames]
  cases (compile e : Compilation Column).result with
  | error error => rfl
  | ok query => exact congrArg Except.ok (query.filter_fold games).symm

/-- Letter case and outer blanks do not matter to a filter. Of two expressions whose pieces agree up
to them, both fail or neither does. If they fail, it is on the same column, and the values that the
errors quote agree up to letter case; otherwise their clauses correspond one to one. All games are
filtered alike. -/
theorem compile_samePieces {e e' : String} (h : SamePieces e e') :
    ((∃ error, (compile e : Compilation Column).result = .error error) ↔
        ∃ error, (compile e' : Compilation Column).result = .error error) ∧
      (∀ error error', (compile e : Compilation Column).result = .error error →
        (compile e' : Compilation Column).result = .error error' →
        ∃ (column : Column) (kind : Kind) (value value' : String),
          error = .invalidValue (Schema.name column) value kind ∧
          error' = .invalidValue (Schema.name column) value' kind ∧
          Text.equalFold value value' = true) ∧
      (∀ query query' : Query Column, (compile e).result = .ok query →
        (compile e').result = .ok query' →
        List.Forall₂ Clause.EqualFold query.clauses query'.clauses) ∧
      ∀ games, (filterGames e games).mapError QueryError.fold =
        (filterGames e' games).mapError QueryError.fold := by
  have hresult := h.foldResult_eq
  refine ⟨?_, ?_, ?_, ?_⟩
  · rw [← exists_foldResult_eq_error_iff, hresult, exists_foldResult_eq_error_iff]
  · intro error error' herror herror'
    rw [herror, herror'] at hresult
    rw [← result_ofClauses_clauseTexts] at herror herror'
    obtain ⟨column, value, kind, rfl⟩ := Compilation.exists_invalidValue herror
    obtain ⟨column', value', kind', rfl⟩ := Compilation.exists_invalidValue herror'
    obtain ⟨hname, hvalue, rfl⟩ := QueryError.invalidValue.inj (Except.error.inj hresult)
    rw [← hname]
    exact ⟨column, kind, value, value', rfl, rfl, Text.equalFold_iff_fold_eq.2 hvalue⟩
  · intro query query' hquery hquery'
    rw [hquery, hquery'] at hresult
    exact Query.forall₂_of_fold_eq (Except.ok.inj hresult)
  · intro games
    rw [filterGames_mapError_fold, hresult, filterGames_mapError_fold]

/-- The letter of an exponent, a wide blank and the values of a pattern and of an error. -/
theorem compile_samePieces_spellings :
    SamePieces " NAME ~= Go ,RATING >= 1E1" "name ~= gO,\u3000Rating >= 1e1 " ∧
      SamePieces "year > X" "Year > x " ∧
      ∀ games,
        (filterGames " NAME ~= Go ,RATING >= 1E1" games).mapError QueryError.fold =
          (filterGames "name ~= gO,\u3000Rating >= 1e1 " games).mapError QueryError.fold ∧
        (filterGames "year > X" games).mapError QueryError.fold =
          (filterGames "Year > x " games).mapError QueryError.fold := by
  have hread : SamePieces " NAME ~= Go ,RATING >= 1E1" "name ~= gO,\u3000Rating >= 1e1 " := by
    unfold SamePieces
    decide +kernel
  have hfailed : SamePieces "year > X" "Year > x " := by
    unfold SamePieces
    decide +kernel
  refine ⟨hread, hfailed, ?_⟩
  intro games
  exact ⟨(compile_samePieces hread).2.2.2 games, (compile_samePieces hfailed).2.2.2 games⟩

end GameShelf
