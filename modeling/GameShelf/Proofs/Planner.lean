import GameShelf.Proofs.Game.Order
import GameShelf.Session
import Mathlib.Data.List.Induction

/-!
# The view of a planner

What an operation shows is settled by the operation and the catalog alone, and one that fails
changes nothing. So after any run the view is what the last operation that succeeded shows: the
games of the catalog that satisfy each clause of its expression, without repetition, and in order if
it sorts them.
-/

namespace GameShelf

namespace Planner

/-- What can be asked of a planner; a sort without a direction is an ascending one. -/
inductive Operation where
  | filter (expression : String)
  | filterSorted (expression : String) (column : Column) (direction : Direction)
  | reset
deriving DecidableEq, Repr

def perform (p : Planner) : Operation → Except QueryError Planner
  | .filter expression => p.filter expression
  | .filterSorted expression column direction => p.filterSorted expression column direction
  | .reset => .ok p.reset

/-- The planner after an operation; one that fails leaves it as it is. -/
def next (p : Planner) (op : Operation) : Planner :=
  match p.perform op with
  | .ok q => q
  | .error _ => p

def run (p : Planner) (ops : List Operation) : Planner :=
  ops.foldl next p

/-- The operations of a run that succeed, each on the planner that those before it leave. -/
def succeeded (p : Planner) : List Operation → List Operation
  | [] => []
  | op :: ops =>
    match p.perform op with
    | .ok q => op :: q.succeeded ops
    | .error _ => p.succeeded ops

/-- The last operation of a run that succeeds; resetting if none does. -/
def lastSucceeded (p : Planner) (ops : List Operation) : Operation :=
  (p.succeeded ops).getLast?.getD .reset

/-! ## What an operation shows -/

/-- The query that an operation asks, and the order that it sorts by. -/
def Operation.request : Operation → Except QueryError (Query Column × Option (SortOrder Column))
  | .filter expression => (compile expression).result.map fun query ↦ (query, none)
  | .filterSorted expression column direction =>
    (compile expression).result.bind fun query ↦
      (SortOrder.on column direction).map fun order ↦ (query, some order)
  | .reset => .ok (⟨[]⟩, none)

/-- The games in an order, or as they are. -/
def arrange (order? : Option (SortOrder Column)) (games : List Game) : List Game :=
  match order? with
  | some order => order.sort games
  | none => games

/-- An operation fails before it looks at any game, and its view comes from the whole catalog. -/
theorem perform_eq (p : Planner) (op : Operation) :
    p.perform op = op.request.map fun (query, order?) ↦
      { p with view := arrange order? (query.filter p.catalog.games) } := by
  cases op with
  | filter expression =>
    rw [perform, filter, filterGames, Operation.request]
    cases (compile (F := Column) expression).result <;> rfl
  | filterSorted expression column direction =>
    rw [perform, filterSorted, filterGames, Operation.request]
    cases (compile (F := Column) expression).result with
    | error e => rfl
    | ok query =>
      change ((SortOrder.on column direction).map _).map _ =
        ((SortOrder.on column direction).map _).map _
      cases SortOrder.on column direction <;> rfl
  | reset =>
    have hall : (⟨[]⟩ : Query Column).filter p.catalog.games = p.catalog.games :=
      List.filter_eq_self.2 fun _ _ ↦ rfl
    exact congrArg (fun view ↦ Except.ok { p with view }) hall.symm

/-- A list of games is what a query and an order make of a catalog. -/
structure Shows (query : Query Column) (order? : Option (SortOrder Column)) (catalog : Catalog)
    (view : List Game) : Prop where
  nodup : view.Nodup
  mem_iff : ∀ g, g ∈ view ↔ g ∈ catalog.games ∧ ∀ c ∈ query.clauses, c.accepts g = true
  ordered : ∀ order ∈ order?, order.Ordered view

theorem arrange_perm (order? : Option (SortOrder Column)) (games : List Game) :
    (arrange order? games).Perm games := by
  cases order? with
  | none => exact .refl _
  | some order => exact order.sort_perm games

theorem shows_arrange (query : Query Column) (order? : Option (SortOrder Column))
    (catalog : Catalog) :
    Shows query order? catalog (arrange order? (query.filter catalog.games)) where
  nodup := (arrange_perm order? _).nodup_iff.2 (catalog.nodup.filter _)
  mem_iff g := by
    calc
      g ∈ arrange order? (query.filter catalog.games) ↔ g ∈ query.filter catalog.games :=
        (arrange_perm order? _).mem_iff
      _ ↔ g ∈ catalog.games ∧ ∀ c ∈ query.clauses, c.accepts g = true := Query.mem_filter
  ordered order horder := by
    rw [Option.mem_def.1 horder]
    exact order.ordered_sort _

theorem Shows.perm {query : Query Column} {order? : Option (SortOrder Column)}
    {catalog other : Catalog} {view view' : List Game} (h : Shows query order? catalog view)
    (h' : Shows query order? other view') (hgames : ∀ g, g ∈ catalog.games ↔ g ∈ other.games) :
    view.Perm view' := by
  rw [List.perm_ext_iff_of_nodup h.nodup h'.nodup]
  intro g
  rw [h.mem_iff, h'.mem_iff, hgames]

theorem perform_of_request {op : Operation} {query : Query Column}
    {order? : Option (SortOrder Column)} (h : op.request = .ok (query, order?))
    (catalog : Catalog) :
    ∃ p, (ofCatalog catalog).perform op = .ok p ∧ Shows query order? catalog p.view := by
  rw [perform_eq, h]
  exact ⟨_, rfl, shows_arrange query order? catalog⟩

/-! ## Runs -/

theorem catalog_next (p : Planner) (op : Operation) : (p.next op).catalog = p.catalog := by
  unfold next
  rw [perform_eq]
  cases op.request <;> rfl

theorem catalog_run (p : Planner) (ops : List Operation) : (p.run ops).catalog = p.catalog := by
  induction ops generalizing p with
  | nil => rfl
  | cons op ops ih =>
    calc
      (p.run (op :: ops)).catalog = ((p.next op).run ops).catalog := rfl
      _ = (p.next op).catalog := ih (p.next op)
      _ = p.catalog := p.catalog_next op

/-- Nothing but its catalog tells what an operation makes of a planner. -/
theorem perform_ofCatalog (p : Planner) (op : Operation) :
    (ofCatalog p.catalog).perform op = p.perform op := by
  rw [perform_eq, perform_eq]
  rfl

theorem run_concat (p : Planner) (ops : List Operation) (op : Operation) :
    p.run (ops ++ [op]) = (p.run ops).next op := by
  rw [run, run, List.foldl_append]
  rfl

theorem succeeded_append (p : Planner) (ops ops' : List Operation) :
    p.succeeded (ops ++ ops') = p.succeeded ops ++ (p.run ops).succeeded ops' := by
  induction ops generalizing p with
  | nil => rfl
  | cons op ops ih =>
    rw [List.cons_append, succeeded, succeeded, run, List.foldl_cons, next]
    cases p.perform op with
    | ok q => exact congrArg (List.cons op) (ih q)
    | error e => exact ih p

/-- After a run, the planner is what the last operation that succeeded makes of a fresh one. -/
theorem perform_lastSucceeded (catalog : Catalog) (ops : List Operation) :
    (ofCatalog catalog).perform ((ofCatalog catalog).lastSucceeded ops) =
      .ok ((ofCatalog catalog).run ops) := by
  induction ops using List.reverseRecOn with
  | nil => rfl
  | append_singleton ops op ih =>
    -- The run has kept the catalog, so the last operation does to it what it does to a fresh planner.
    have hfresh := ((ofCatalog catalog).run ops).perform_ofCatalog op
    rw [catalog_run] at hfresh
    rw [run_concat, next, lastSucceeded, succeeded_append, succeeded]
    cases hperform : ((ofCatalog catalog).run ops).perform op with
    | ok q =>
      change (ofCatalog catalog).perform
        (((ofCatalog catalog).succeeded ops ++ [op]).getLast?.getD .reset) = .ok q
      rw [List.getLast?_concat]
      exact hfresh.trans hperform
    | error e =>
      change (ofCatalog catalog).perform
        (((ofCatalog catalog).succeeded ops ++ []).getLast?.getD .reset) = _
      rw [List.append_nil]
      exact ih

/-- A planner has no memory. After any run its catalog is the one given at the start, and its view
is what the last operation that succeeded shows on a fresh planner: the games that its query and
its order make of the catalog. A fresh planner over a catalog that lists the same games in another
order shows the same games, rearranged as far as that order allows. -/
theorem view_run (catalog : Catalog) (ops : List Operation) :
    ((ofCatalog catalog).run ops).catalog = catalog ∧
      (ofCatalog catalog).perform ((ofCatalog catalog).lastSucceeded ops) =
        .ok ((ofCatalog catalog).run ops) ∧
      ∃ query order?,
        ((ofCatalog catalog).lastSucceeded ops).request = .ok (query, order?) ∧
          Shows query order? catalog ((ofCatalog catalog).run ops).view ∧
          ∀ other : Catalog, (∀ g, g ∈ other.games ↔ g ∈ catalog.games) →
            ∃ p, (ofCatalog other).perform ((ofCatalog catalog).lastSucceeded ops) = .ok p ∧
              Shows query order? other p.view ∧
              p.view.Perm ((ofCatalog catalog).run ops).view := by
  have hlast := perform_lastSucceeded catalog ops
  refine ⟨catalog_run _ ops, hlast, ?_⟩
  cases hrequest : ((ofCatalog catalog).lastSucceeded ops).request with
  | error e =>
    rw [perform_eq, hrequest] at hlast
    cases hlast
  | ok request =>
    obtain ⟨query, order?⟩ := request
    obtain ⟨p, hp, hview⟩ := perform_of_request hrequest catalog
    obtain rfl : p = (ofCatalog catalog).run ops := Except.ok.inj (hp.symm.trans hlast)
    refine ⟨query, order?, rfl, hview, ?_⟩
    intro other hgames
    obtain ⟨q, hq, hother⟩ := perform_of_request hrequest other
    exact ⟨q, hq, hother, hother.perm hview hgames⟩

/-- A sort on a column that has no order and an expression that cannot be read are forgotten. -/
theorem view_run_after_failures :
    let go : Game := { Game.named "Go" with yearPublished := 1000, maxPlayers := 2 }
    let chess : Game := { Game.named "Chess" with yearPublished := 1500, maxPlayers := 2 }
    let catan : Game := { Game.named "Catan" with yearPublished := 1995, maxPlayers := 4 }
    let catalog := Catalog.ofList [chess, catan, go]
    let sort : Operation := .filterSorted "maxPlayers <= 2" .year .ascending
    let ops := [.filter "year > 1200", sort, .filterSorted "" .id .ascending, .filter "year > soon"]
    let p := (ofCatalog catalog).run ops
    p.catalog = catalog ∧ (ofCatalog catalog).perform sort = .ok p ∧ p.view = [go, chess] := by
  intro go chess catan catalog sort ops p
  have hlast : (ofCatalog catalog).lastSucceeded ops = sort := by decide +kernel
  have h := view_run catalog ops
  rw [hlast] at h
  exact ⟨h.1, h.2.1, by decide +kernel⟩

end Planner

/-! ## The planner of a session -/

/-- What a command asks of the planner; one that sorts names the column. -/
def Command.operation? : Command → Option Planner.Operation
  | .filter expression => some (.filter expression)
  | .filterSorted expression column direction =>
    (Column.ofName? column).map fun column ↦ .filterSorted expression column direction
  | .reset => some .reset
  | _ => none

namespace Session

theorem planner_plan (s : Session) (r : Except QueryError Planner) :
    (s.plan r).1.planner = match r with
      | .ok p => p
      | .error _ => s.planner := by
  cases r <;> rfl

@[simp]
theorem planner_select (s : Session) (r : Except SelectionError (Selection × Nat)) :
    (s.select r).1.planner = s.planner := by
  cases r <;> rfl

@[simp]
theorem planner_store (s : Session) (r : Except FileError FileTree) :
    (s.store r).1.planner = s.planner := by
  cases r <;> rfl

@[simp]
theorem planner_save (s : Session) (path : String) (stop : Option FileTree.Stage) :
    (s.save path stop).1.planner = s.planner := by
  unfold save
  split <;> rfl

theorem planner_step (s : Session) (c : Command) :
    (s.step c).1.planner = s.planner.run c.operation?.toList := by
  cases c with
  | filter | reset =>
    rw [step, planner_plan]
    rfl
  | filterSorted expression column direction =>
    rw [step, planner_plan, Command.operation?]
    unfold Column.byName
    cases Column.ofName? column <;> rfl
  | add | addView | remove =>
    rw [step, planner_select]
    rfl
  | save path stop => exact s.planner_save path stop
  | makeDirectory | write =>
    rw [step, planner_store]
    rfl
  | clear | contains | takeSnapshot | equalsSnapshot | read | list => rfl

/-- The planner of a session runs through what the commands ask of it. -/
theorem planner_run (s : Session) (cs : List Command) :
    (s.run cs).planner = s.planner.run (cs.filterMap Command.operation?) := by
  induction cs generalizing s with
  | nil => rfl
  | cons c cs ih =>
    rw [run_cons, ih, planner_step, List.filterMap_cons]
    cases c.operation? <;> rfl

end Session

end GameShelf
