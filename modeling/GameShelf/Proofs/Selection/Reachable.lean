import GameShelf.Proofs.Selection.History

/-!
# Reachable selections

The selections that can come up are those that adding and removing lead to from the empty one. All
of them are well-formed. A session that begins with the empty selection has no other ones.
-/

namespace GameShelf

namespace Selection

/-- A selection that successful additions and removals lead to from the empty one. -/
inductive Reachable : Selection → Prop where
  | empty : Reachable empty
  | add {s t : Selection} {address : String} {candidates : List String} {n : Nat} :
      Reachable s → s.add address candidates = .ok (t, n) → Reachable t
  | remove {s t : Selection} {address : String} {n : Nat} :
      Reachable s → s.remove address = .ok (t, n) → Reachable t

theorem Reachable.wellFormed {s : Selection} (h : s.Reachable) : s.WellFormed := by
  induction h with
  | empty => exact wellFormed_empty
  | add _ hadd ih =>
    rw [eq_insertAll_of_add hadd]
    exact ih.insertAll _
  | remove _ hremove ih =>
    rcases eq_erase_of_remove hremove with rfl | ⟨keys, rfl⟩
    · exact wellFormed_empty
    · exact ih.eraseAll keys

end Selection

namespace Session

variable {s : Session}

theorem reachable_select (h : s.selection.Reachable)
    {r : Except SelectionError (Selection × Nat)}
    (hr : ∀ t n, r = .ok (t, n) → t.Reachable) : (s.select r).1.selection.Reachable := by
  cases r with
  | error e => exact h
  | ok result => exact hr result.1 result.2 rfl

theorem reachable_step (h : s.selection.Reachable) (c : Command) :
    (s.step c).1.selection.Reachable := by
  cases c with
  | add | addView =>
    rw [step]
    exact reachable_select h fun _ _ hadd ↦ .add h hadd
  | remove =>
    rw [step]
    exact reachable_select h fun _ _ hremove ↦ .remove h hremove
  | clear => exact .empty
  | filter | filterSorted | reset =>
    rw [step, selection_plan]
    exact h
  | save =>
    rw [step, selection_save]
    exact h
  | makeDirectory | write =>
    rw [step, selection_store]
    exact h
  | contains | takeSnapshot | equalsSnapshot | read | list => exact h

theorem reachable_run (h : s.selection.Reachable) (cs : List Command) :
    (s.run cs).selection.Reachable := by
  induction cs generalizing s with
  | nil => exact h
  | cons c cs ih => exact ih (reachable_step h c)

end Session

end GameShelf
