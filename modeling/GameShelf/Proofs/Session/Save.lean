import GameShelf.Proofs.Session.Failure

/-!
# A save replaces one file or nothing

A path addresses a place for a file when its last name can be that of an entry, the names before it
lead to a directory that is there, and no directory is at the place itself. A selection that is
saved to such a path is the whole text of the file there, and all other entries are as before; to
any other path it cannot be saved, nor when the system refuses to go on at some stage, and all
entries are as before. The temporary file is gone in every case, also when the writing stops before
the text is complete.
-/

namespace GameShelf.Session

/-- A save either makes the file at its path the names of the selection, each followed by a line
feed, and leaves all other entries without adding one, or it fails and leaves all entries; it does
the former if and only if the path addresses a place for a file and the system does not refuse to go
on at any stage. The rest of the state is the same in either case. -/
theorem save_replaces_or_keeps (s : Session) (path : String) (stop : Option FileTree.Stage) :
    let text := String.ofList (s.selection.names.flatMap fun name ↦ name.toList ++ ['\n'])
    let after := (s.step (.save path stop)).1
    let reply := (s.step (.save path stop)).2
    after = { s with files := after.files } ∧ after.files.working = s.files.working ∧
      ((stop = none ∧ ∃ directory name, s.files.Addresses path directory name ∧
          reply = .text text ∧ s.files.resolve? path = some (directory ++ [name]) ∧
          after.files.find? (directory ++ [name]) = some (.file text) ∧
          (∀ l, l ≠ directory ++ [name] → after.files.find? l = s.files.find? l) ∧
          ∀ entry ∈ after.files.entries,
            entry = (directory ++ [name], .file text) ∨ entry ∈ s.files.entries) ∨
        ((stop = none → ∀ directory name, ¬ s.files.Addresses path directory name) ∧
          (∃ cause, reply = .failed (.selection (.save path cause))) ∧
          after.files = s.files)) := by
  intro text after reply
  have hstep : s.save path stop = (after, reply) := rfl
  rcases s.save_cases path stop with ⟨hwrite, cause, hsave⟩ | ⟨files, hstop, hwrite, hsave⟩
  · have hafter : s = after := congrArg Prod.fst (hsave.symm.trans hstep)
    have hreply : .failed (.selection (.save path cause)) = reply :=
      congrArg Prod.snd (hsave.symm.trans hstep)
    rw [← hafter, ← hreply]
    refine ⟨rfl, rfl, .inr ⟨?_, ⟨cause, rfl⟩, rfl⟩⟩
    intro hstop directory name haddresses
    exact hwrite hstop _ (FileTree.write_eq_ok_iff.2 ⟨directory, name, haddresses, rfl⟩)
  · obtain ⟨directory, name, haddresses, hfiles⟩ := FileTree.write_eq_ok_iff.1 hwrite
    have hafter : { s with files } = after := congrArg Prod.fst (hsave.symm.trans hstep)
    have hreply : .text s.selection.lines = reply := congrArg Prod.snd (hsave.symm.trans hstep)
    rw [← hafter, ← hreply, hfiles]
    refine ⟨rfl, rfl, .inl ⟨hstop, directory, name, haddresses, rfl,
      FileTree.resolve?_of_addresses haddresses, ?_, ?_, ?_⟩⟩
    · exact FileTree.find?_put_self _ (by simp) _
    · intro l hl
      exact FileTree.find?_put_of_ne _ hl _
    · intro entry hentry
      exact (FileTree.mem_entries_put.1 hentry).imp_right And.left

-- Absolute paths start at the root, and nothing is above it.
example :
    let s := (Session.start []).run [.makeDirectory "/lists", .save "/lists/../../lists/old"]
    s.files.read "../lists/old" = .ok "" ∧ (s.step (.save "/lists/old" (some .syncing))).1 = s := by
  decide +kernel

end GameShelf.Session
