import GameShelf.Proofs.Selection.Spelling
import GameShelf.Session
import Mathlib.Data.List.Induction

/-!
# The history of a selection

A command adds the names that it picks to the selection, or erases names from it. A selection that
begins empty is therefore well-formed after every run, and each of its names is told by the run: it
is the first one that was picked under its key since the key was last absent.
-/

namespace GameShelf

namespace Selection

/-- The candidates at an address; none if the address stands for nothing. -/
def picked (address : String) (candidates : List String) : List String :=
  match Address.resolve address candidates with
  | .ok a => (a.span candidates.length).slice candidates
  | .error _ => []

variable {s t : Selection} {address : String} {candidates : List String}

theorem picked_nil (address : String) : picked address [] = [] := by
  unfold picked
  split
  · simp [Span.slice]
  · rfl

theorem eq_insertAll_of_add {n : Nat} (h : s.add address candidates = .ok (t, n)) :
    t = (s.insertAll (picked address candidates)).1 := by
  unfold add at h
  split at h
  · cases h
  · unfold picked
    cases hresolve : Address.resolve address candidates with
    | error e =>
      rw [hresolve] at h
      cases h
    | ok a =>
      rw [hresolve] at h
      exact (congrArg Prod.fst (Except.ok.inj h)).symm

theorem picked_eq_nil_of_add {e : SelectionError} (h : s.add address candidates = .error e) :
    picked address candidates = [] := by
  unfold add at h
  split at h
  · next hempty => rw [List.isEmpty_iff.1 hempty, picked_nil]
  · unfold picked
    cases hresolve : Address.resolve address candidates with
    | error e => rfl
    | ok a =>
      rw [hresolve] at h
      cases h

theorem eq_erase_of_remove {n : Nat} (h : s.remove address = .ok (t, n)) :
    t = empty ∨ ∃ keys : List NameKey, t = keys.foldl erase s := by
  unfold remove at h
  split at h
  · exact .inl (congrArg Prod.fst (Except.ok.inj h)).symm
  · split at h
    · cases h
    · cases hresolve : Address.resolve address s.names with
      | error e =>
        rw [hresolve] at h
        cases h
      | ok a =>
        rw [hresolve] at h
        exact .inr ⟨_, (congrArg Prod.fst (Except.ok.inj h)).symm⟩

end Selection

namespace Session

/-! ## One command -/

/-- The names that a command picks for the selection. -/
def picked (s : Session) : Command → List String
  | .add address candidates => Selection.picked address candidates
  | .addView address => Selection.picked address (s.planner.view.map Game.name)
  | _ => []

@[simp]
theorem selection_plan (s : Session) (r : Except QueryError Planner) :
    (s.plan r).1.selection = s.selection := by
  cases r <;> rfl

@[simp]
theorem selection_store (s : Session) (r : Except FileError FileTree) :
    (s.store r).1.selection = s.selection := by
  cases r <;> rfl

@[simp]
theorem selection_save (s : Session) (path : String) (stop : Option FileTree.Stage) :
    (s.save path stop).1.selection = s.selection := by
  unfold save
  split <;> rfl

theorem selection_select_add (s : Session) (address : String) (candidates : List String) :
    (s.select (s.selection.add address candidates)).1.selection =
      (s.selection.insertAll (Selection.picked address candidates)).1 := by
  cases hadd : s.selection.add address candidates with
  | error e =>
    rw [Selection.picked_eq_nil_of_add hadd]
    rfl
  | ok r => exact Selection.eq_insertAll_of_add hadd

theorem selection_select_remove (s : Session) (address : String) :
    (s.select (s.selection.remove address)).1.selection = .empty ∨
      ∃ keys : List NameKey,
        (s.select (s.selection.remove address)).1.selection =
          keys.foldl Selection.erase s.selection := by
  cases hremove : s.selection.remove address with
  | error e => exact .inr ⟨[], rfl⟩
  | ok r => exact Selection.eq_erase_of_remove hremove

/-- A command adds the names that it picks to the selection, or erases names from it. -/
theorem selection_step (s : Session) (c : Command) :
    (s.step c).1.selection = (s.selection.insertAll (s.picked c)).1 ∨
      (s.step c).1.selection = .empty ∨
      ∃ keys : List NameKey, (s.step c).1.selection = keys.foldl Selection.erase s.selection := by
  cases c with
  | add address candidates => exact .inl (s.selection_select_add address candidates)
  | addView address => exact .inl (s.selection_select_add address (s.planner.view.map Game.name))
  | remove address =>
    rw [step]
    exact .inr (s.selection_select_remove address)
  | clear => exact .inr (.inl rfl)
  | filter | filterSorted | reset =>
    rw [step, selection_plan]
    exact .inl rfl
  | save path stop => exact .inl (s.selection_save path stop)
  | makeDirectory | write =>
    rw [step, selection_store]
    exact .inl rfl
  | contains | takeSnapshot | equalsSnapshot | read | list => exact .inl rfl

theorem wellFormed_step {s : Session} (h : s.selection.WellFormed) (c : Command) :
    (s.step c).1.selection.WellFormed := by
  obtain heq | heq | ⟨keys, heq⟩ := s.selection_step c
  · exact heq ▸ h.insertAll (s.picked c)
  · exact heq ▸ Selection.wellFormed_empty
  · exact heq ▸ h.eraseAll keys

/-- After a command, nothing is listed under a key, or what was listed there before, or else the
first name that the command picks under the key. -/
theorem spelling?_step {s : Session} (h : s.selection.WellFormed) (c : Command) (key : NameKey) :
    (s.step c).1.selection.spelling? key = none ∨
      (s.step c).1.selection.spelling? key =
        (s.selection.spelling? key).or
          ((s.picked c).find? fun name ↦ NameKey.ofName name = key) := by
  obtain heq | heq | ⟨keys, heq⟩ := s.selection_step c
  · rw [heq]
    exact .inr (Selection.spelling?_insertAll h _ key)
  · rw [heq]
    exact .inl rfl
  · rw [heq, Selection.spelling?_eraseAll]
    by_cases hkey : key ∈ keys
    · exact .inl (if_pos hkey)
    · rw [if_neg hkey]
      cases hlisted : s.selection.spelling? key with
      | none => exact .inl rfl
      | some name => exact .inr rfl

/-! ## Runs -/

theorem run_concat (s : Session) (cs : List Command) (c : Command) :
    s.run (cs ++ [c]) = ((s.run cs).step c).1 := by
  rw [run, run, List.foldl_append]
  rfl

theorem wellFormed_run {s : Session} (h : s.selection.WellFormed) (cs : List Command) :
    (s.run cs).selection.WellFormed := by
  induction cs generalizing s with
  | nil => exact h
  | cons c cs ih => exact ih (wellFormed_step h c)

/-- The names that commands pick for the selection, one command after another. -/
def pickedBy (s : Session) : List Command → List String
  | [] => []
  | c :: cs => s.picked c ++ (s.step c).1.pickedBy cs

theorem pickedBy_singleton (s : Session) (c : Command) : s.pickedBy [c] = s.picked c :=
  List.append_nil _

theorem pickedBy_concat (s : Session) (cs : List Command) (c : Command) :
    s.pickedBy (cs ++ [c]) = s.pickedBy cs ++ (s.run cs).picked c := by
  induction cs generalizing s with
  | nil => exact s.pickedBy_singleton c
  | cons first cs ih =>
    rw [List.cons_append, pickedBy, pickedBy, ih, List.append_assoc, run_cons]

/-- After the commands `before` nothing is listed under the key of a name, after each of the
commands `after` something is, and of the names picked by `after` this one is the first that has
its key. -/
structure ListedSince (s : Session) (before after : List Command) (name : String) : Prop where
  absent : (s.run before).selection.containsKey (NameKey.ofName name) = false
  present : ∀ cs, cs <+: after → cs ≠ [] →
    (s.run (before ++ cs)).selection.containsKey (NameKey.ofName name) = true
  first : (((s.run before).pickedBy after).find? fun other ↦
    NameKey.ofName other = NameKey.ofName name) = some name

variable {s : Session} {before after : List Command} {c : Command} {name : String}

theorem ListedSince.singleton
    (habsent : (s.run before).selection.containsKey (NameKey.ofName name) = false)
    (hpresent : (s.run (before ++ [c])).selection.containsKey (NameKey.ofName name) = true)
    (hfirst : ((s.run before).picked c).find?
      (fun other ↦ NameKey.ofName other = NameKey.ofName name) = some name) :
    s.ListedSince before [c] name where
  absent := habsent
  present cs hcs hne := by
    obtain rfl | ⟨rest, rfl, hrest⟩ := List.prefix_cons_iff.1 hcs
    · exact absurd rfl hne
    · rw [List.prefix_nil.1 hrest]
      exact hpresent
  first := by
    rw [pickedBy_singleton]
    exact hfirst

theorem ListedSince.concat (h : s.ListedSince before after name)
    (hpresent : (s.run (before ++ (after ++ [c]))).selection.containsKey
      (NameKey.ofName name) = true) :
    s.ListedSince before (after ++ [c]) name where
  absent := h.absent
  present cs hcs hne := by
    rcases List.prefix_concat_iff.1 hcs with rfl | hcs
    · exact hpresent
    · exact h.present cs hcs hne
  first := by
    rw [pickedBy_concat, List.find?_append, h.first, Option.some_or]

/-- Each name that is listed after a run is the first one that was picked under its key since the
key was last absent. -/
theorem exists_listedSince {s : Session} (h₀ : s.selection = .empty) {cs : List Command}
    {name : String} (hname : name ∈ (s.run cs).selection.names) :
    ∃ before after, cs = before ++ after ∧ s.ListedSince before after name := by
  have hwell (cs : List Command) : (s.run cs).selection.WellFormed :=
    wellFormed_run (h₀ ▸ Selection.wellFormed_empty) cs
  induction cs using List.reverseRecOn with
  | nil =>
    rw [run_nil, h₀] at hname
    exact absurd hname List.not_mem_nil
  | append_singleton cs c ih =>
    have hlisted := (Selection.mem_names_iff (hwell _)).1 hname
    have hpresent : (s.run (cs ++ [c])).selection.containsKey (NameKey.ofName name) = true := by
      rw [Selection.containsKey_eq_isSome, hlisted, Option.isSome_some]
    rw [run_concat] at hlisted
    -- The name was listed before the last command, which keeps it, or the command picked it.
    obtain hstep | hstep := spelling?_step (hwell cs) c (NameKey.ofName name)
    · exact absurd (hstep.symm.trans hlisted) (by simp)
    · rw [hstep] at hlisted
      cases hold : (s.run cs).selection.spelling? (NameKey.ofName name) with
      | none =>
        rw [hold, Option.none_or] at hlisted
        have habsent : (s.run cs).selection.containsKey (NameKey.ofName name) = false := by
          rw [Selection.containsKey_eq_isSome, hold, Option.isSome_none]
        exact ⟨cs, [c], rfl, .singleton habsent hpresent hlisted⟩
      | some old =>
        rw [hold, Option.some_or] at hlisted
        obtain rfl : old = name := Option.some.inj hlisted
        obtain ⟨before, after, rfl, hsince⟩ := ih ((Selection.mem_names_iff (hwell cs)).2 hold)
        refine ⟨before, after ++ [c], List.append_assoc before after [c], hsince.concat ?_⟩
        rw [← List.append_assoc]
        exact hpresent

/-- A selection that begins empty, after any run: each name is listed under its own key; the names
increase by their keys, so no two of them are equal up to letter case and the blanks around them;
they are counted; a name is contained if and only if one with its key is listed; and each name is
the first one that was picked under its key since the key was last absent. -/
theorem selection_run (s : Session) (h₀ : s.selection = .empty) (cs : List Command) :
    (∀ entry ∈ (s.run cs).selection.entries, entry.1 = NameKey.ofName entry.2) ∧
      (s.run cs).selection.names.Pairwise (fun a b ↦
        (NameKey.ofName a).compare (NameKey.ofName b) = .lt ∧
          Text.equalFold (Text.trim a) (Text.trim b) = false) ∧
      ((s.run cs).selection.count = (s.run cs).selection.names.length ∧
        ((s.run cs).selection.isEmpty = true ↔ (s.run cs).selection.count = 0)) ∧
      (∀ name, (s.run cs).selection.contains name = true ↔
        ∃ listed ∈ (s.run cs).selection.names, NameKey.ofName listed = NameKey.ofName name) ∧
      ∀ name ∈ (s.run cs).selection.names,
        ∃ before after, cs = before ++ after ∧ s.ListedSince before after name := by
  have hwell : (s.run cs).selection.WellFormed :=
    wellFormed_run (h₀ ▸ Selection.wellFormed_empty) cs
  refine ⟨hwell.key_eq, ?_, ⟨?_, ?_⟩, ?_, ?_⟩
  · apply hwell.increasing_names.imp
    intro a b hlt
    constructor
    · exact hlt
    · rw [← Bool.not_eq_true, ← NameKey.ofName_eq_iff]
      exact NameKey.ne_of_compare_lt hlt
  · exact (Selection.length_names _).symm
  · exact List.isEmpty_iff_length_eq_zero
  · intro name
    exact Selection.contains_iff hwell
  · intro name hname
    exact exists_listedSince h₀ hname

/-- A name that is removed and picked again under another spelling takes the new one. -/
theorem selection_run_reselected :
    let cs : List Command := [.add "1" ["Go Fish"], .add "all" ["GO FISH", "Chess"], .save "list",
      .remove "go fish", .add "9" ["Go"], .add "all" ["chess", " go fish "]]
    (start []).selection = .empty ∧
      ((start []).run cs).selection.names = ["Chess", " go fish "] ∧
      ∃ before after, cs = before ++ after ∧ (start []).ListedSince before after " go fish " := by
  intro cs
  have hnames : ((start []).run cs).selection.names = ["Chess", " go fish "] := by
    decide +kernel
  refine ⟨rfl, hnames, (selection_run (start []) rfl cs).2.2.2.2 _ ?_⟩
  rw [hnames]
  exact List.mem_cons_of_mem _ List.mem_cons_self

end Session

end GameShelf
