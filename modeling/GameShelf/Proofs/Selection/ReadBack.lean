import GameShelf.Proofs.Selection.OneByOne
import GameShelf.Proofs.Session.Failure

/-!
# Saved selections are read back

A saved selection is a line for each name. As long as no name holds a line feed, the lines of the
text are the names, however blank they are, and the names with their keys are the whole selection.
So the text determines the selection, and adding all of its lines to an empty selection gives the
selection back.
-/

namespace GameShelf

namespace Text

/-- The lines of a text, if each of them is ended by a line feed. -/
def endedLines? (text : String) : Option (List String) :=
  let pieces := text.toList.splitOn '\n'
  if pieces.getLast? = some [] then some (pieces.dropLast.map String.ofList) else none

/-- Pieces that are ended by a separator are what a text is split into, and nothing follows them. -/
theorem splitOn_flatMap_concat {a : Char} {xss : List (List Char)} (h : ∀ xs ∈ xss, a ∉ xs) :
    (xss.flatMap fun xs ↦ xs ++ [a]).splitOn a = xss ++ [[]] := by
  induction xss with
  | nil => rfl
  | cons xs xss ih =>
    obtain ⟨hxs, hxss⟩ := List.forall_mem_cons.1 h
    rw [List.flatMap_cons, List.append_assoc, List.singleton_append,
      List.splitOn_append_cons_self, List.splitOn_eq_singleton hxs, ih hxss]
    rfl

end Text

namespace Selection

variable {s t : Selection}

theorem endedLines?_lines (h : ∀ name ∈ s.names, '\n' ∉ name.toList) :
    Text.endedLines? s.lines = some s.names := by
  have hpieces : s.lines.toList.splitOn '\n' = s.names.map String.toList ++ [[]] := by
    rw [toList_lines, ← Text.splitOn_flatMap_concat, List.flatMap_map]
    intro cs hcs
    obtain ⟨name, hname, rfl⟩ := List.mem_map.1 hcs
    exact h name hname
  rw [Text.endedLines?, hpieces]
  simp

/-! ## Names with their keys -/

theorem entries_eq_map_names (h : s.WellFormed) :
    s.entries = s.names.map fun name ↦ (NameKey.ofName name, name) := by
  calc
    s.entries = s.entries.map id := (List.map_id _).symm
    _ = s.entries.map fun entry ↦ (NameKey.ofName entry.2, entry.2) := by
      apply List.map_congr_left
      intro entry hentry
      rw [← h.key_eq entry hentry, id]
    _ = s.names.map fun name ↦ (NameKey.ofName name, name) := by
      rw [names, List.map_map, Function.comp_def]

/-- A selection is determined by its names. -/
theorem WellFormed.eq_of_names_eq (hs : s.WellFormed) (ht : t.WellFormed)
    (h : s.names = t.names) : s = t := by
  have hentries : s.entries = t.entries := by
    rw [entries_eq_map_names hs, entries_eq_map_names ht, h]
  exact congrArg Selection.mk hentries

theorem find?_names (h : s.WellFormed) (key : NameKey) :
    (s.names.find? fun name ↦ NameKey.ofName name = key) = s.spelling? key := by
  rw [spelling?, entries_eq_map_names h]
  induction s.names with
  | nil => rfl
  | cons name names ih =>
    rw [List.map_cons]
    by_cases hkey : NameKey.ofName name = key
    · rw [List.find?_cons, decide_eq_true hkey, hkey, List.lookup_cons_self]
    · rw [List.find?_cons, decide_eq_false hkey, lookup_cons_ne (Ne.symm hkey), ih]

/-- The names of a selection, added to an empty one, give the selection back. -/
theorem insertAll_names (h : s.WellFormed) : empty.insertAll s.names = (s, s.count) := by
  have hresult : (empty.insertAll s.names).1 = s := by
    apply (wellFormed_empty.insertAll s.names).ext h
    intro key
    rw [spelling?_insertAll wellFormed_empty, find?_names h]
    exact Option.none_or
  have hadded : s.count = empty.count + (empty.insertAll s.names).2 := by
    rw [← count_insertAll wellFormed_empty, hresult]
  exact Prod.ext hresult (hadded.trans (Nat.zero_add _)).symm

/-! ## Saved texts -/

theorem read_of_save {path : String} {files written : FileTree}
    (h : s.save path files = (.ok (), written)) : written.read path = .ok s.lines := by
  rcases s.save_cases path files none with ⟨-, cause, hsave⟩ | ⟨tree, -, hwrite, hsave⟩
  · rw [hsave] at h
    cases h
  · rw [hsave] at h
    cases h
    exact FileTree.read_of_write hwrite

/-- The saved text of a selection whose names hold no line feed is read back: its lines are the
names in their order, no other such selection is saved as the same text, and unless there are no
names, adding all the lines to an empty selection gives the selection back and counts its names. -/
theorem lines_of_save (h : s.Reachable) (hfree : ∀ name ∈ s.names, '\n' ∉ name.toList)
    {path : String} {files written : FileTree} (hsave : s.save path files = (.ok (), written)) :
    ∃ text, written.read path = .ok text ∧ Text.endedLines? text = some s.names ∧
      (∀ t : Selection, t.Reachable → (∀ name ∈ t.names, '\n' ∉ name.toList) →
        ∀ path' files' written', t.save path' files' = (.ok (), written') →
          written'.read path' = .ok text → t = s) ∧
      (s.isEmpty = false → ∃ lines, Text.endedLines? text = some lines ∧
        empty.add Address.wildcard lines = .ok (s, s.count)) := by
  refine ⟨s.lines, read_of_save hsave, endedLines?_lines hfree, ?_, ?_⟩
  · intro t ht hfree' path' files' written' hsave' hread
    have htext : t.lines = s.lines := Except.ok.inj ((read_of_save hsave').symm.trans hread)
    have hnames : some t.names = some s.names := by
      rw [← endedLines?_lines hfree', htext, endedLines?_lines hfree]
    exact ht.wellFormed.eq_of_names_eq h.wellFormed (Option.some.inj hnames)
  · intro hne
    have hnames : s.names ≠ [] := by
      rw [names, Ne, List.map_eq_nil_iff]
      exact List.isEmpty_eq_false_iff.1 hne
    refine ⟨s.names, endedLines?_lines hfree, ?_⟩
    rw [add_wildcard hnames, insertAll_names h.wellFormed]

/-- A blank name, one that ends in a carriage return and one that is written like the wildcard take
the place of an earlier list, and the empty selection is saved as the empty text. -/
theorem lines_of_save_blank :
    let s : Selection := ⟨[(.ofName " ", " "), (.ofName "ALL", "all"), (.ofName "Go", "Go\r")]⟩
    let files : FileTree := ⟨[(["list"], .file "Chess\n")], []⟩
    let written : FileTree := ⟨[(["list"], .file " \nall\nGo\r\n")], []⟩
    s.Reachable ∧ (∀ name ∈ s.names, '\n' ∉ name.toList) ∧
      s.save "list" files = (.ok (), written) ∧
      (∃ text, written.read "list" = .ok text ∧
        Text.endedLines? text = some [" ", "all", "Go\r"]) ∧
      (∃ lines, empty.add "ALL" lines = .ok (s, 3)) ∧
      ∃ saved, empty.save "list" files = (.ok (), saved) ∧
        ∃ text, saved.read "list" = .ok text ∧ Text.endedLines? text = some [] := by
  intro s files written
  have hadd : empty.add "all" ["Go\r", "all", "GO", " "] = .ok (s, 3) := by decide +kernel
  have hs : s.Reachable := .add .empty hadd
  have hfree : ∀ name ∈ s.names, '\n' ∉ name.toList := by decide +kernel
  have hsave : s.save "list" files = (.ok (), written) := by decide +kernel
  have hblank : empty.save "list" files = (.ok (), ⟨[(["list"], .file "")], []⟩) := by
    decide +kernel
  obtain ⟨text, hread, hlines, -, hadded⟩ := lines_of_save hs hfree hsave
  obtain ⟨lines, -, hback⟩ := hadded rfl
  obtain ⟨saved, hsaved, hnone, -⟩ := lines_of_save .empty (by decide) hblank
  exact ⟨hs, hfree, hsave, ⟨text, hread, hlines⟩, ⟨lines, hback⟩, _, hblank, saved, hsaved, hnone⟩

end Selection

end GameShelf
