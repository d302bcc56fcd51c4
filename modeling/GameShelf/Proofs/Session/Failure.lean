import GameShelf.Proofs.Storage.Replace
import GameShelf.Session

/-!
# Commands that fail

A command that fails is as if it had not been given: the planner, the selection, its earlier copy
and the files are the same after it as before it. Some commands fail only when part of their work is
done. A sorted filter has found its games when the column turns out to have no order, and a part of
a selection is in a temporary file when the system refuses to go on, or all of it when that cannot
take its place; none of this is left behind. So the commands of a run that fail can be left out of
it.
-/

namespace GameShelf

/-! ## Sorting in place -/

section InPlace

variable {T F : Type} [Schema F] [Record T F]

/-- Sorts the records of a list where they are, and tells whether the field can be queried. -/
def sortInPlace (field : F) (direction : Direction) (records : List T) :
    Except QueryError Unit × List T :=
  match SortOrder.on field direction with
  | .ok order => (.ok (), order.sort records)
  | .error e => (.error e, records)

/-- Sorting in place leaves what sorting gives, or else what was there. -/
theorem sortInPlace_eq (field : F) (direction : Direction) (records : List T) :
    sortInPlace field direction records = match sortOn field direction records with
      | .ok sorted => (.ok (), sorted)
      | .error e => (.error e, records) := by
  unfold sortInPlace sortOn
  cases SortOrder.on field direction <;> rfl

theorem sortInPlace_of_error {field : F} {direction : Direction} {records : List T}
    {e : QueryError} (h : (sortInPlace field direction records).1 = .error e) :
    (sortInPlace field direction records).2 = records := by
  rw [sortInPlace_eq] at h ⊢
  cases hsort : sortOn field direction records with
  | ok sorted => simp [hsort] at h
  | error e => rfl

end InPlace

/-- A sorted filter sorts the games that it has found in place. They become the view only when that
succeeds. -/
theorem Planner.filterSorted_eq_sortInPlace (p : Planner) (expression : String) (column : Column)
    (direction : Direction) :
    p.filterSorted expression column direction =
      (filterGames expression p.catalog.games).bind fun found ↦
        match sortInPlace column direction found with
        | (.ok (), view) => .ok { p with view }
        | (.error e, _) => .error e := by
  unfold filterSorted
  cases filterGames expression p.catalog.games with
  | error e => rfl
  | ok found =>
    simp only [Except.bind, sortGames, sortInPlace_eq]
    cases sortOn column direction found <;> rfl

/-! ## Saving -/

/-- A selection is saved in one step, or the files are as they are. -/
theorem Selection.save_cases (s : Selection) (path : String) (files : FileTree)
    (stop : Option FileTree.Stage) :
    ((stop = none → ∀ u, files.write path s.lines ≠ .ok u) ∧
        ∃ cause, s.save path files stop = (.error (.save path cause), files)) ∨
      ∃ u, stop = none ∧ files.write path s.lines = .ok u ∧
        s.save path files stop = (.ok (), u) := by
  unfold save
  rcases files.replace_cases path s.lines stop with
    ⟨hwrite, e, hreplace⟩ | ⟨u, hstop, hwrite, hreplace⟩
  · rw [hreplace]
    exact .inl ⟨hwrite, e.message, rfl⟩
  · rw [hreplace]
    exact .inr ⟨u, hstop, hwrite, rfl⟩

namespace Session

/-- A saved selection is answered with its lines, and one that is not saved leaves the state. -/
theorem save_cases (s : Session) (path : String) (stop : Option FileTree.Stage) :
    ((stop = none → ∀ u, s.files.write path s.selection.lines ≠ .ok u) ∧
        ∃ cause, s.save path stop = (s, .failed (.selection (.save path cause)))) ∨
      ∃ files, stop = none ∧ s.files.write path s.selection.lines = .ok files ∧
        s.save path stop = ({ s with files }, .text s.selection.lines) := by
  unfold save
  rcases s.selection.save_cases path s.files stop with
    ⟨hwrite, cause, hsave⟩ | ⟨files, hstop, hwrite, hsave⟩
  · rw [hsave]
    exact .inl ⟨hwrite, cause, rfl⟩
  · simp only [hsave, FileTree.read_of_write hwrite]
    exact .inr ⟨files, hstop, hwrite, rfl⟩

/-! ## One command -/

variable {s : Session} {e : Failure}

theorem plan_of_failed {r : Except QueryError Planner} (h : (s.plan r).2 = .failed e) :
    (s.plan r).1 = s := by
  cases r with
  | ok p => cases h
  | error e => rfl

theorem select_of_failed {r : Except SelectionError (Selection × Nat)}
    (h : (s.select r).2 = .failed e) : (s.select r).1 = s := by
  cases r with
  | ok r => cases h
  | error e => rfl

theorem store_of_failed {r : Except FileError FileTree} (h : (s.store r).2 = .failed e) :
    (s.store r).1 = s := by
  cases r with
  | ok files => cases h
  | error e => rfl

theorem save_of_failed {path : String} {stop : Option FileTree.Stage}
    (h : (s.save path stop).2 = .failed e) : (s.save path stop).1 = s := by
  rcases s.save_cases path stop with ⟨-, cause, hsave⟩ | ⟨files, -, -, hsave⟩
  · rw [hsave]
  · rw [hsave] at h
    cases h

/-- A command that fails leaves the whole state as it is. -/
theorem step_of_failed {c : Command} (h : (s.step c).2 = .failed e) : (s.step c).1 = s := by
  cases c with
  | filter | filterSorted | reset =>
    rw [step] at h ⊢
    exact plan_of_failed h
  | add | addView | remove =>
    rw [step] at h ⊢
    exact select_of_failed h
  | save path stop => exact save_of_failed h
  | makeDirectory | write =>
    rw [step] at h ⊢
    exact store_of_failed h
  | clear | takeSnapshot => cases h
  | contains | equalsSnapshot | read | list => rfl

end Session

/-! ## Runs -/

def Reply.isFailed : Reply → Bool
  | .failed _ => true
  | _ => false

theorem Reply.isFailed_iff {r : Reply} : r.isFailed = true ↔ ∃ e, r = .failed e := by
  cases r <;> simp [isFailed]

namespace Session

/-- The commands of a run that succeed, each on the state that those before it leave. -/
def succeeded (s : Session) : List Command → List Command
  | [] => []
  | c :: cs =>
    if (s.step c).2.isFailed then s.succeeded cs else c :: (s.step c).1.succeeded cs

/-- The commands of a run that fail can be left out of it. -/
theorem run_succeeded (s : Session) (cs : List Command) : s.run (s.succeeded cs) = s.run cs := by
  induction cs generalizing s with
  | nil => rfl
  | cons c cs ih =>
    rw [succeeded, run_cons]
    split_ifs with h
    · obtain ⟨e, he⟩ := Reply.isFailed_iff.1 h
      rw [step_of_failed he, ih]
    · rw [run_cons, ih]

end Session

/-- Errors leave everything as it was. Whatever a session has been through, a command that fails
keeps its planner, its selection with every spelling, and all its files; and records that are to be
sorted in place keep their order when the field cannot be queried. -/
theorem unchanged_of_failure :
    (∀ (s : Session) (c : Command) (e : Failure),
      (s.step c).2 = .failed e → (s.step c).1 = s) ∧
      ∀ {T F : Type} [Schema F] [Record T F] (field : F) (direction : Direction)
        (records : List T) (e : QueryError),
        (sortInPlace field direction records).1 = .error e →
          (sortInPlace field direction records).2 = records := by
  constructor
  · intro s c e h
    exact Session.step_of_failed h
  · intro T F _ _ field direction records e h
    exact sortInPlace_of_error h

/-- A directory is where the selection is to be saved, and an earlier list is among the files. -/
theorem unchanged_of_failure_on_directory :
    let games := [Game.named "Go", Game.named "Chess"]
    let s := (Session.start games).run
      [.filter "name ~= o", .addView "all", .save "old", .makeDirectory "new"]
    let failing : List Command :=
      [.filter "year > soon", .filterSorted "name == chess" "weight" .ascending,
        .filterSorted "name == chess" "id" .descending, .add "all" [], .add "catan" ["Go"],
        .remove "2", .save "new", .save "old/list", .save "lists/new",
        .save "old" (some (.writing "G"))]
    (∀ c ∈ failing, (s.step c).2.isFailed = true ∧ (s.step c).1 = s) ∧
      s.planner.view = [Game.named "Go"] ∧ s.selection.names = ["Go"] ∧
      s.files.read "old" = .ok "Go\n" ∧ s.files.workingNames = ["new/", "old"] ∧
      ((Session.start games).step (.remove "go")).2 = .failed (.selection .emptyList) ∧
      ((Session.start games).step (.remove "go")).1 = Session.start games ∧
      (sortInPlace Column.id .descending games).1 = .error (.unsupportedSort "id") ∧
      (sortInPlace Column.id .descending games).2 = games := by
  intro games s failing
  have hfailing : ∀ c ∈ failing, (s.step c).2.isFailed = true := by decide +kernel
  have hempty :
      ((Session.start games).step (.remove "go")).2 = .failed (.selection .emptyList) := by
    decide +kernel
  have hsort :
      (sortInPlace Column.id .descending games).1 = .error (.unsupportedSort "id") := rfl
  refine ⟨?_, by decide +kernel, by decide +kernel, by decide +kernel, by decide +kernel, hempty,
    unchanged_of_failure.1 _ _ _ hempty, hsort, unchanged_of_failure.2 _ _ _ _ hsort⟩
  intro c hc
  obtain ⟨e, he⟩ := Reply.isFailed_iff.1 (hfailing c hc)
  exact ⟨hfailing c hc, unchanged_of_failure.1 s c e he⟩

end GameShelf
