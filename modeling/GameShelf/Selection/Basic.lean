import GameShelf.Selection.Address
import GameShelf.Selection.NameKey

/-!
# Selections

A selection is a list of the names of games, ordered by their keys, with one name per key. Of the
names of one key the first that was added is kept as it was spelled. Names are added from a list of
candidates and removed from the selection itself, both by addresses.
-/

namespace GameShelf

/-- The names of a selection with their keys, in the order of the keys. -/
structure Selection where
  entries : List (NameKey × String)
deriving DecidableEq, Repr

namespace Selection

def empty : Selection where
  entries := []

/-- The names, in the order of their keys. -/
def names (s : Selection) : List String :=
  s.entries.map (·.2)

def count (s : Selection) : Nat :=
  s.entries.length

def isEmpty (s : Selection) : Bool :=
  s.entries.isEmpty

def containsKey (s : Selection) (key : NameKey) : Bool :=
  s.entries.any fun entry ↦ entry.1 == key

/-- Whether a name is in the selection, up to letter case and the blanks around it. -/
def contains (s : Selection) (name : String) : Bool :=
  s.containsKey (.ofName name)

/-- The entries with one more, at its place; a key that is there already keeps its name. -/
def insertEntry (key : NameKey) (name : String) :
    List (NameKey × String) → List (NameKey × String)
  | [] => [(key, name)]
  | entry :: entries =>
    match key.compare entry.1 with
    | .lt => (key, name) :: entry :: entries
    | .eq => entry :: entries
    | .gt => entry :: insertEntry key name entries

/-- The selection with one more name, unless one with its key is there already. -/
def insert (s : Selection) (name : String) : Selection :=
  ⟨insertEntry (.ofName name) name s.entries⟩

def erase (s : Selection) (key : NameKey) : Selection :=
  ⟨s.entries.filter fun entry ↦ entry.1 ≠ key⟩

/-- Adds names one after another, and counts those whose key was not there. -/
def insertAll (s : Selection) : List String → Selection × Nat
  | [] => (s, 0)
  | name :: names =>
    let (result, added) := (s.insert name).insertAll names
    (result, if s.contains name then added else added + 1)

/-- Adds the candidates at an address, and tells how many names are new. -/
def add (s : Selection) (address : String) (candidates : List String) :
    Except SelectionError (Selection × Nat) :=
  if candidates.isEmpty then .error .noCandidates
  else (Address.resolve address candidates).map fun a ↦
    s.insertAll ((a.span candidates.length).slice candidates)

/-- Removes the names at an address, and tells how many it stands for. Everything can be removed
even from an empty selection. -/
def remove (s : Selection) (address : String) : Except SelectionError (Selection × Nat) :=
  if Address.isWildcard address then .ok (empty, s.count)
  else if s.isEmpty then .error .emptyList
  else (Address.resolve address s.names).map fun a ↦
    let span := a.span s.count
    (((span.slice s.names).map NameKey.ofName).foldl erase s, span.size)

/-- The text of a selection: each name on a line of its own. -/
def lines (s : Selection) : String :=
  String.ofList (s.names.flatMap fun name ↦ name.toList ++ ['\n'])

@[simp]
theorem length_names (s : Selection) : s.names.length = s.count := by
  simp [names, count]

@[simp]
theorem toList_lines (s : Selection) :
    s.lines.toList = s.names.flatMap fun name ↦ name.toList ++ ['\n'] := by
  simp [lines]

end Selection

end GameShelf
