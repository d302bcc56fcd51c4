/-!
# Trees of files

A tree of directories and text files below a root directory, as a table from locations to entries,
and the directory in it from which relative paths start. A location is the list of names that leads
to it from the root. Every operation that can fail either yields a new tree or tells why it does
not.

`locate?` follows a written path as far as its directory; what the last name of the path stands for
is left to the operation. `replace` writes a file through a temporary one beside it, so that at no
time the file at the path is half written. The system can refuse to go on at each of its stages.
-/

namespace GameShelf

/-- The names that lead to a file or directory from the root. -/
abbrev Location := List String

inductive Entry where
  | directory
  | file (text : String)
deriving DecidableEq, Repr

/-- Why an operation on files fails. -/
inductive FileError where
  | notFound
  | notADirectory
  | isADirectory
  | refused
deriving DecidableEq, Repr

def FileError.message : FileError → String
  | notFound => "no such file or directory"
  | notADirectory => "not a directory"
  | isADirectory => "is a directory"
  | refused => "refused by the system"

/-- The entries below the root with their locations, and the directory of relative paths. -/
structure FileTree where
  entries : List (Location × Entry)
  working : Location
deriving DecidableEq, Repr

namespace FileTree

/-- The tree with an empty working directory and nothing else. -/
def fresh : FileTree where
  entries := [(["work"], .directory)]
  working := ["work"]

/-- What is at a location. The root is a directory. -/
def find? (t : FileTree) : Location → Option Entry
  | [] => some .directory
  | l => t.entries.lookup l

def isDirectory (t : FileTree) (l : Location) : Bool :=
  t.find? l == some .directory

def erase (t : FileTree) (l : Location) : FileTree :=
  { t with entries := t.entries.filter fun (k, _) ↦ k ≠ l }

/-- The tree with an entry at a location, in place of what is there. -/
def put (t : FileTree) (l : Location) (e : Entry) : FileTree :=
  { t with entries := (l, e) :: (t.erase l).entries }

/-! ## Paths -/

/-- The location that the names of a path lead to. Every name is looked up in a directory: an empty
name and a single dot stand for the directory itself, and two dots for the one above it, which for
the root is the root. -/
def walk? (t : FileTree) (l : Location) : List String → Option Location
  | [] => some l
  | name :: names =>
    if !t.isDirectory l then none
    else if name = "" ∨ name = "." then t.walk? l names
    else if name = ".." then t.walk? l.dropLast names
    else t.walk? (l ++ [name]) names

/-- The names of a path, between slashes. -/
def pathNames (path : String) : List String :=
  (path.toList.splitOn '/').map String.ofList

def isAbsolute (path : String) : Bool :=
  path.toList.head? == some '/'

/-- Where the names of a path start: at the root if it is absolute. -/
def start (t : FileTree) (path : String) : Location :=
  if isAbsolute path then [] else t.working

def resolve? (t : FileTree) (path : String) : Option Location :=
  t.walk? (t.start path) (pathNames path)

/-- Whether an entry can have a name: one to 255 bytes, none of them zero, other than the dots that
stand for directories. -/
def isEntryName (name : String) : Bool :=
  name ≠ "" && name ≠ "." && name ≠ ".." && name.utf8ByteSize ≤ 255 &&
    name.toList.all (· ≠ '\x00')

/-- The directory and the last name of a path that can name a file. A path that is empty or ends in
a slash or in dots leads to a directory. -/
def locate? (t : FileTree) (path : String) : Option (Location × String) :=
  let names := pathNames path
  match names.getLast? with
  | none => none
  | some name =>
    if isEntryName name then
      (t.walk? (t.start path) names.dropLast).map fun directory ↦ (directory, name)
    else none

/-- The location for a file at a path, in a directory that is there. -/
def place (t : FileTree) (path : String) : Except FileError Location :=
  match t.locate? path with
  | none => .error .notFound
  | some (directory, name) =>
    if !t.isDirectory directory then .error .notADirectory
    else if t.isDirectory (directory ++ [name]) then .error .isADirectory
    else .ok (directory ++ [name])

/-- The directory in which the last name of a path is looked up, whether or not it can name a file.
Slashes and single dots behind the last name do not count; for a path of nothing else it is the
working directory. -/
def parent? (t : FileTree) (path : String) : Option Location :=
  match (pathNames path).reverse.dropWhile fun name ↦ name = "" ∨ name = "." with
  | [] => some t.working
  | _ :: names => t.walk? (t.start path) names.reverse

/-! ## Files -/

def read (t : FileTree) (path : String) : Except FileError String :=
  match (t.resolve? path).bind t.find? with
  | some (.file text) => .ok text
  | some .directory => .error .isADirectory
  | none => .error .notFound

def write (t : FileTree) (path text : String) : Except FileError FileTree :=
  (t.place path).map fun l ↦ t.put l (.file text)

/-- The tree with a file moved to a path, where it replaces a file. -/
def rename (t : FileTree) (source : Location) (path : String) : Except FileError FileTree :=
  match t.find? source with
  | none => .error .notFound
  | some e => (t.place path).map fun target ↦ (t.erase source).put target e

/-- The stages of replacing a file. When writing stops, the temporary file holds a part of the
text. -/
inductive Stage where
  | creating
  | writing (part : String)
  | syncing
  | moving
deriving DecidableEq, Repr

/-- A name that no entry has: it is longer than all names together. -/
def unusedName (t : FileTree) : String :=
  let characters := t.entries.flatMap fun (l, _) ↦ l.flatMap String.toList
  ".tmp" ++ String.ofList (List.replicate characters.length '0')

/-- The tree with an empty file of an unused name in a directory, and its location. -/
def createTemporary (t : FileTree) (directory : Location) (stop : Option Stage) :
    Except FileError (Location × FileTree) :=
  if !t.isDirectory directory then .error .notADirectory
  else if stop = some .creating then .error .refused
  else
    let l := directory ++ [t.unusedName]
    .ok (l, t.put l (.file ""))

/-- Writes a text to a temporary file, and moves the file to a path when all of it is written and
synced. When this fails, the temporary file is still in the tree, with what was written to it. -/
def fill (t : FileTree) (temporary : Location) (path text : String) :
    Option Stage → Except FileError Unit × FileTree
  | some (.writing part) => (.error .refused, t.put temporary (.file part))
  | some _ => (.error .refused, t.put temporary (.file text))
  | none =>
    let filled := t.put temporary (.file text)
    match filled.rename temporary path with
    | .ok moved => (.ok (), moved)
    | .error e => (.error e, filled)

/-- Writes a file by way of a temporary file in the same directory. The temporary file is removed
again when it does not take the place of the file, whether the path does not lead there or the
system refuses to go on at a stage. -/
def replace (t : FileTree) (path text : String) (stop : Option Stage) :
    Except FileError Unit × FileTree :=
  match t.parent? path with
  | none => (.error .notFound, t)
  | some directory =>
    match t.createTemporary directory stop with
    | .error e => (.error e, t)
    | .ok (temporary, created) =>
      match created.fill temporary path text stop with
      | (.ok (), moved) => (.ok (), moved)
      | (.error e, filled) => (.error e, filled.erase temporary)

/-! ## Directories -/

/-- The tree with a directory wherever the names of a path lead, starting from a location. -/
def makeDirectories (t : FileTree) (l : Location) : List String → Except FileError FileTree
  | [] => .ok t
  | name :: names =>
    if name = "" ∨ name = "." then t.makeDirectories l names
    else if name = ".." then t.makeDirectories l.dropLast names
    else
      let below := l ++ [name]
      match t.find? below with
      | some .directory => t.makeDirectories below names
      | some (.file _) => .error .notADirectory
      | none => (t.put below .directory).makeDirectories below names

/-- The tree with the directory of a path and all directories above it. -/
def makeDirectory (t : FileTree) (path : String) : Except FileError FileTree :=
  if t.isDirectory (t.start path) then t.makeDirectories (t.start path) (pathNames path)
  else .error .notFound

/-- The names in the working directory; a slash follows the name of a directory. -/
def workingNames (t : FileTree) : List String :=
  t.entries.filterMap fun (l, e) ↦
    (l.getLast?.filter fun name ↦ l = t.working ++ [name]).map fun name ↦
      match e with
      | .directory => name ++ "/"
      | .file _ => name

/-! ## Erasing and putting -/

@[simp]
theorem find?_nil (t : FileTree) : t.find? [] = some .directory := rfl

theorem find?_of_ne_nil (t : FileTree) {l : Location} (h : l ≠ []) :
    t.find? l = t.entries.lookup l := by
  cases l with
  | nil => exact absurd rfl h
  | cons name names => rfl

theorem lookup_erase_self (t : FileTree) (l : Location) : (t.erase l).entries.lookup l = none := by
  refine List.lookup_eq_none_iff.2 fun entry h ↦ ?_
  have hne : entry.1 ≠ l := of_decide_eq_true (List.mem_filter.1 h).2
  exact bne_iff_ne.2 hne.symm

theorem lookup_erase_of_ne (t : FileTree) {k l : Location} (h : k ≠ l) :
    (t.erase l).entries.lookup k = t.entries.lookup k := by
  unfold erase
  induction t.entries with
  | nil => rfl
  | cons entry entries ih =>
    obtain ⟨m, e⟩ := entry
    by_cases hm : m = l
    · have hk : (k == m) = false := beq_eq_false_iff_ne.2 (hm ▸ h)
      rw [List.filter_cons_of_neg (by simpa using hm), List.lookup_cons, hk]
      exact ih
    · rw [List.filter_cons_of_pos (by simpa using hm), List.lookup_cons, List.lookup_cons, ih]

/-- Nothing is left where an entry was erased. -/
theorem find?_erase_self (t : FileTree) {l : Location} (h : l ≠ []) :
    (t.erase l).find? l = none := by
  rw [find?_of_ne_nil _ h, lookup_erase_self]

/-- An entry is found where it was put. -/
theorem find?_put_self (t : FileTree) {l : Location} (h : l ≠ []) (e : Entry) :
    (t.put l e).find? l = some e := by
  rw [find?_of_ne_nil _ h]
  simp [put]

/-- Putting an entry leaves all others. -/
theorem find?_put_of_ne (t : FileTree) {k l : Location} (h : k ≠ l) (e : Entry) :
    (t.put l e).find? k = t.find? k := by
  by_cases hk : k = []
  · subst hk
    rfl
  · have hb : (k == l) = false := beq_eq_false_iff_ne.2 h
    rw [find?_of_ne_nil _ hk, find?_of_ne_nil _ hk, put, List.lookup_cons, hb,
      lookup_erase_of_ne t h]

end FileTree

end GameShelf
