import GameShelf.Storage.FileTree
import Mathlib.Data.List.Basic

/-!
# Replacing a file

No entry has the name of the temporary file, and it is gone again when the replacement is over. So
replacing a file is writing it in one step: a replacement that fails, at whatever stage, gives back
the tree as it was, entry by entry, and one that succeeds leaves the text where its path leads.
-/

namespace GameShelf.FileTree

variable {t u : FileTree} {l directory : Location} {path text name : String}

/-! ## Putting and erasing an entry -/

theorem erase_eq_self (h : ∀ entry ∈ t.entries, entry.1 ≠ l) : t.erase l = t := by
  have hkept : ∀ entry ∈ t.entries, decide (entry.1 ≠ l) = true := by
    intro entry hentry
    exact decide_eq_true (h entry hentry)
  rw [erase, List.filter_eq_self.2 hkept]

@[simp]
theorem erase_put (t : FileTree) (l : Location) (e : Entry) : (t.put l e).erase l = t.erase l := by
  simp [erase, put, List.filter_filter]

@[simp]
theorem put_put (t : FileTree) (l : Location) (e e' : Entry) :
    (t.put l e).put l e' = t.put l e' := by
  rw [put, erase_put]
  rfl

/-- The entries of a tree with an entry put at a location are that one and those elsewhere. -/
theorem mem_entries_put {entry : Location × Entry} {e : Entry} :
    entry ∈ (t.put l e).entries ↔ entry = (l, e) ∨ entry ∈ t.entries ∧ entry.1 ≠ l := by
  simp [put, erase]

/-- A file that is put where no directory is leaves the same directories. -/
theorem isDirectory_put_file (h : t.isDirectory l = false) (text : String) (k : Location) :
    (t.put l (.file text)).isDirectory k = t.isDirectory k := by
  have hl : l ≠ [] := by
    rintro rfl
    exact absurd h (by simp [isDirectory])
  by_cases hk : k = l
  · rw [hk, h, isDirectory, find?_put_self t hl]
    rfl
  · rw [isDirectory, isDirectory, find?_put_of_ne t hk]

/-! ## Paths -/

/-- Only the directories of a tree tell where names lead. -/
theorem walk?_congr (h : ∀ l, u.isDirectory l = t.isDirectory l) (l : Location)
    (names : List String) : u.walk? l names = t.walk? l names := by
  induction names generalizing l with
  | nil => rfl
  | cons name names ih => rw [walk?, walk?, h, ih, ih, ih]

theorem walk?_append (t : FileTree) (l : Location) (names names' : List String) :
    t.walk? l (names ++ names') = (t.walk? l names).bind fun l' ↦ t.walk? l' names' := by
  induction names generalizing l with
  | nil => rfl
  | cons name names ih =>
    rw [List.cons_append, walk?, walk?, ih, ih, ih]
    split_ifs <;> rfl

/-- A path leads to the same place for a file after a file is put where no directory is. -/
theorem place_put_file (h : t.isDirectory l = false) (text path : String) :
    (t.put l (.file text)).place path = t.place path := by
  have hdirectories := isDirectory_put_file h text
  have hlocate : (t.put l (.file text)).locate? path = t.locate? path := by
    simp only [locate?, walk?_congr hdirectories]
    rfl
  simp only [place, hlocate, hdirectories]

/-- The path leads to a place in a directory where a file can be put. -/
structure Addresses (t : FileTree) (path : String) (directory : Location) (name : String) :
    Prop where
  locate : t.locate? path = some (directory, name)
  isDirectory : t.isDirectory directory = true
  free : t.isDirectory (directory ++ [name]) = false

theorem place_of_addresses (h : t.Addresses path directory name) :
    t.place path = .ok (directory ++ [name]) := by
  rw [place, h.locate]
  simp [h.isDirectory, h.free]

theorem exists_addresses_of_place (h : t.place path = .ok l) :
    ∃ directory name, t.Addresses path directory name ∧ l = directory ++ [name] := by
  unfold place at h
  cases hlocate : t.locate? path with
  | none => simp [hlocate] at h
  | some found =>
    simp only [hlocate] at h
    split_ifs at h with hdirectory htarget
    exact ⟨found.1, found.2, ⟨hlocate, by simpa using hdirectory, eq_false_of_ne_true htarget⟩,
      (Except.ok.inj h).symm⟩

/-- Files are written where their paths lead, and nowhere else. -/
theorem write_eq_ok_iff : t.write path text = .ok u ↔
    ∃ directory name, t.Addresses path directory name ∧
      u = t.put (directory ++ [name]) (.file text) := by
  constructor
  · intro h
    cases hplace : t.place path with
    | error e => simp [write, hplace, Except.map] at h
    | ok l =>
      obtain ⟨directory, name, haddresses, rfl⟩ := exists_addresses_of_place hplace
      have hput : t.put (directory ++ [name]) (.file text) = u := by
        simpa [write, hplace, Except.map] using h
      exact ⟨directory, name, haddresses, hput.symm⟩
  · intro h
    obtain ⟨directory, name, haddresses, hput⟩ := h
    rw [write, place_of_addresses haddresses, hput]
    rfl

theorem isEntryName_ne (h : isEntryName name = true) : name ≠ "" ∧ name ≠ "." ∧ name ≠ ".." := by
  simp only [isEntryName, Bool.and_eq_true, decide_eq_true_eq] at h
  exact ⟨h.1.1.1.1, h.1.1.1.2, h.1.1.2⟩

theorem walk?_entryName (hname : isEntryName name = true) (hl : t.isDirectory l = true) :
    t.walk? l [name] = some (l ++ [name]) := by
  obtain ⟨hempty, hdot, hdots⟩ := isEntryName_ne hname
  simp [walk?, hl, hempty, hdot, hdots]

theorem locate?_eq_some (h : t.locate? path = some (directory, name)) :
    isEntryName name = true ∧ ∃ names, pathNames path = names ++ [name] ∧
      t.walk? (t.start path) names = some directory := by
  unfold locate? at h
  cases hlast : (pathNames path).getLast? with
  | none => simp [hlast] at h
  | some last =>
    simp only [hlast, Option.ite_none_right_eq_some, Option.map_eq_some_iff, Prod.mk.injEq] at h
    obtain ⟨hname, directory, hwalk, rfl, rfl⟩ := h
    exact ⟨hname, _, (List.dropLast_append_getLast? last hlast).symm, hwalk⟩

/-- The temporary file is created in the directory where the path leads. -/
theorem parent?_of_locate? (h : t.locate? path = some (directory, name)) :
    t.parent? path = some directory := by
  obtain ⟨hname, names, hnames, hwalk⟩ := locate?_eq_some h
  obtain ⟨hempty, hdot, -⟩ := isEntryName_ne hname
  simp [parent?, hnames, hempty, hdot, hwalk]

/-- The place of a file is where its path leads. -/
theorem resolve?_of_addresses (h : t.Addresses path directory name) :
    t.resolve? path = some (directory ++ [name]) := by
  obtain ⟨hname, names, hnames, hwalk⟩ := locate?_eq_some h.locate
  rw [resolve?, hnames, walk?_append, hwalk]
  exact walk?_entryName hname h.isDirectory

/-! ## The temporary file -/

theorem length_lt_length_unusedName {entry : Location × Entry} (hentry : entry ∈ t.entries)
    (hname : name ∈ entry.1) : name.length < t.unusedName.length := by
  let characters := t.entries.flatMap fun entry ↦ entry.1.flatMap String.toList
  have hsublist : name.toList.Sublist characters := by
    calc
      name.toList.Sublist (entry.1.flatMap String.toList) :=
        List.sublist_flatten_of_mem (List.mem_map_of_mem hname)
      List.Sublist _ characters := List.sublist_flatten_of_mem (List.mem_map_of_mem hentry)
  calc
    name.length = name.toList.length := String.length_toList.symm
    _ ≤ characters.length := hsublist.length_le
    _ < ".tmp".length + characters.length := Nat.lt_add_of_pos_left (by decide)
    _ = t.unusedName.length := by simp [unusedName, characters]

/-- Nothing is where a temporary file is created. -/
theorem erase_unusedName (t : FileTree) (directory : Location) :
    t.erase (directory ++ [t.unusedName]) = t := by
  apply erase_eq_self
  intro entry hentry h
  have hname : t.unusedName ∈ entry.1 := h ▸ List.mem_append_right directory (by simp)
  exact absurd (length_lt_length_unusedName hentry hname) (Nat.lt_irrefl _)

theorem find?_unusedName (t : FileTree) (directory : Location) :
    t.find? (directory ++ [t.unusedName]) = none := by
  calc
    t.find? (directory ++ [t.unusedName]) =
        (t.erase (directory ++ [t.unusedName])).find? (directory ++ [t.unusedName]) := by
      rw [t.erase_unusedName directory]
    _ = none := t.find?_erase_self (by simp)

/-- Moving a temporary file to a path is writing its text there at once. -/
theorem rename_unusedName (t : FileTree) (directory : Location) (path text : String) :
    (t.put (directory ++ [t.unusedName]) (.file text)).rename (directory ++ [t.unusedName]) path =
      t.write path text := by
  have hunused : t.isDirectory (directory ++ [t.unusedName]) = false := by
    rw [isDirectory, t.find?_unusedName directory]
    rfl
  rw [rename, find?_put_self t (by simp), place_put_file hunused, erase_put,
    t.erase_unusedName directory, write]

/-! ## Replacing -/

/-- A temporary file is created empty, in a directory that is there. -/
theorem createTemporary_cases (t : FileTree) (directory : Location) (stop : Option Stage) :
    (∃ e, t.createTemporary directory stop = .error e) ∨
      t.createTemporary directory stop =
        .ok (directory ++ [t.unusedName], t.put (directory ++ [t.unusedName]) (.file "")) := by
  unfold createTemporary
  split_ifs
  · exact .inl ⟨_, rfl⟩
  · exact .inl ⟨_, rfl⟩
  · exact .inr rfl

/-- A temporary file that is not moved stays in the tree with a part of the text. -/
theorem fill_cases (t : FileTree) (l : Location) (path text : String) (stop : Option Stage) :
    (∃ part e, t.fill l path text stop = (.error e, t.put l (.file part))) ∨
      ∃ u, stop = none ∧ (t.put l (.file text)).rename l path = .ok u ∧
        t.fill l path text stop = (.ok (), u) := by
  cases stop with
  | some stage =>
    cases stage with
    | writing part => exact .inl ⟨part, _, rfl⟩
    | creating | syncing | moving => exact .inl ⟨text, _, rfl⟩
  | none =>
    cases hmoved : (t.put l (.file text)).rename l path with
    | error e => exact .inl ⟨text, e, by simp [fill, hmoved]⟩
    | ok u => exact .inr ⟨u, rfl, rfl, by simp [fill, hmoved]⟩

theorem replace_of_write (h : t.write path text = .ok u) :
    t.replace path text none = (.ok (), u) := by
  obtain ⟨directory, name, haddresses, -⟩ := write_eq_ok_iff.1 h
  rw [← rename_unusedName t directory] at h
  simp [replace, parent?_of_locate? haddresses.locate, createTemporary, haddresses.isDirectory,
    fill, h]

/-- Replacing a file by way of a temporary one is writing it in one step, or else it leaves the tree
as it is. It fails when the file cannot be written, and at whatever stage the system refuses. -/
theorem replace_cases (t : FileTree) (path text : String) (stop : Option Stage) :
    ((stop = none → ∀ u, t.write path text ≠ .ok u) ∧
        ∃ e, t.replace path text stop = (.error e, t)) ∨
      ∃ u, stop = none ∧ t.write path text = .ok u ∧ t.replace path text stop = (.ok (), u) := by
  by_cases hwrite : stop = none ∧ ∃ u, t.write path text = .ok u
  · obtain ⟨hstop, u, hu⟩ := hwrite
    exact .inr ⟨u, hstop, hu, hstop ▸ replace_of_write hu⟩
  · refine .inl ⟨fun hstop u hu ↦ hwrite ⟨hstop, u, hu⟩, ?_⟩
    unfold replace
    cases t.parent? path with
    | none => exact ⟨_, rfl⟩
    | some directory =>
      let temporary := directory ++ [t.unusedName]
      rcases t.createTemporary_cases directory stop with ⟨e, hcreate⟩ | hcreate
      · simp only [hcreate]
        exact ⟨e, rfl⟩
      · rcases (t.put temporary (.file "")).fill_cases temporary path text stop with
          ⟨part, e, hfill⟩ | ⟨u, hstop, hmoved, -⟩
        · simp only [hcreate, hfill, put_put, erase_put, erase_unusedName, temporary]
          exact ⟨e, rfl⟩
        · rw [put_put, rename_unusedName] at hmoved
          exact absurd ⟨hstop, u, hmoved⟩ hwrite

/-- What was written to a path is read from it. -/
theorem read_of_write (h : t.write path text = .ok u) : u.read path = .ok text := by
  obtain ⟨directory, name, haddresses, rfl⟩ := write_eq_ok_iff.1 h
  have hresolve : (t.put (directory ++ [name]) (.file text)).resolve? path =
      some (directory ++ [name]) := by
    -- The tree has the directories that it had, so the path leads where it led.
    calc
      (t.put (directory ++ [name]) (.file text)).resolve? path = t.resolve? path :=
        walk?_congr (isDirectory_put_file haddresses.free text) _ _
      _ = some (directory ++ [name]) := resolve?_of_addresses haddresses
  rw [read, hresolve, Option.bind_some, find?_put_self t (by simp)]

end GameShelf.FileTree
