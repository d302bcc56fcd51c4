import GameShelf.Planner
import GameShelf.Selection.Save

/-!
# Sessions

A session plans from a catalog, collects a selection and saves it: its state is a planner, a
selection, an earlier copy of the selection to compare with, and the files it works on. `step`
carries out one command. A command that fails leaves the whole state as it is.
-/

namespace GameShelf

structure Session where
  planner : Planner
  selection : Selection
  snapshot : Selection
  files : FileTree
deriving DecidableEq

/-- What can be asked of a session. A save stops where the system refuses to go on. -/
inductive Command where
  | filter (expression : String)
  | filterSorted (expression column : String) (direction : Direction)
  | reset
  | add (address : String) (candidates : List String)
  | addView (address : String)
  | remove (address : String)
  | clear
  | contains (name : String)
  | takeSnapshot
  | equalsSnapshot
  | save (path : String) (stop : Option FileTree.Stage := none)
  | makeDirectory (path : String)
  | write (path text : String)
  | read (path : String)
  | list
deriving DecidableEq, Repr

inductive Failure where
  | query (e : QueryError)
  | selection (e : SelectionError)
  | file (e : FileError)
deriving DecidableEq, Repr

inductive Reply where
  | done
  | count (n : Nat)
  | truth (b : Bool)
  | text (s : String)
  | names (ns : List String)
  | failed (e : Failure)
deriving DecidableEq, Repr

namespace Session

/-- The session that plans from the set of the given games, with nothing selected and an empty
working directory. -/
def start (games : List Game) : Session where
  planner := .ofCatalog (.ofList games)
  selection := .empty
  snapshot := .empty
  files := .fresh

/-- The session with the planner that a filter yields; the answer is the size of its view. -/
def plan (s : Session) : Except QueryError Planner → Session × Reply
  | .ok planner => ({ s with planner }, .count planner.view.length)
  | .error e => (s, .failed (.query e))

/-- The session with the selection that adding or removing yields; the answer is the number of
names. -/
def select (s : Session) : Except SelectionError (Selection × Nat) → Session × Reply
  | .ok (selection, n) => ({ s with selection }, .count n)
  | .error e => (s, .failed (.selection e))

def store (s : Session) : Except FileError FileTree → Session × Reply
  | .ok files => ({ s with files }, .done)
  | .error e => (s, .failed (.file e))

/-- Saves the selection; the answer is the text of the file afterwards. -/
def save (s : Session) (path : String) (stop : Option FileTree.Stage) : Session × Reply :=
  match s.selection.save path s.files stop with
  | (.error e, files) => ({ s with files }, .failed (.selection e))
  | (.ok (), files) =>
    ({ s with files }, match files.read path with
      | .ok text => .text text
      | .error e => .failed (.file e))

def step (s : Session) : Command → Session × Reply
  | .filter expression => s.plan (s.planner.filter expression)
  | .filterSorted expression column direction =>
    s.plan ((Column.byName column).bind fun column ↦
      s.planner.filterSorted expression column direction)
  | .reset => s.plan (.ok s.planner.reset)
  | .add address candidates => s.select (s.selection.add address candidates)
  | .addView address => s.select (s.selection.add address (s.planner.view.map Game.name))
  | .remove address => s.select (s.selection.remove address)
  | .clear => ({ s with selection := .empty }, .done)
  | .contains name => (s, .truth (s.selection.contains name))
  | .takeSnapshot => ({ s with snapshot := s.selection }, .done)
  | .equalsSnapshot => (s, .truth (s.selection == s.snapshot))
  | .save path stop => s.save path stop
  | .makeDirectory path => s.store (s.files.makeDirectory path)
  | .write path text => s.store (s.files.write path text)
  | .read path => (s, match s.files.read path with
    | .ok text => .text text
    | .error e => .failed (.file e))
  | .list => (s, .names (s.files.workingNames.mergeSort fun a b ↦ (Text.compareBytes a b).isLE))

def run (s : Session) (commands : List Command) : Session :=
  commands.foldl (fun s c ↦ (s.step c).1) s

@[simp]
theorem run_nil (s : Session) : s.run [] = s := rfl

@[simp]
theorem run_cons (s : Session) (c : Command) (cs : List Command) :
    s.run (c :: cs) = (s.step c).1.run cs := rfl

end Session

end GameShelf
