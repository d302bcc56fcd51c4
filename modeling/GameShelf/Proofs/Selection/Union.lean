import GameShelf.Proofs.Selection.Reachable
import Mathlib.Data.List.Sort

/-!
# Added names as a union

A well-formed selection is determined by what is listed under each key. So adding names is told by
the first of them under each key: lists of names that agree on those are added with the same
result. The number of new names is the growth of the selection, and adding one list after another
is adding both at once.
-/

namespace GameShelf.Selection

/-! ## Selections as maps from keys to spellings -/

/-- Two lists with increasing keys are equal when they have the same members. -/
theorem eq_of_increasing {α : Type} {k : α → NameKey} {xs ys : List α}
    (hx : xs.Pairwise fun a b ↦ (k a).compare (k b) = .lt)
    (hy : ys.Pairwise fun a b ↦ (k a).compare (k b) = .lt) (h : ∀ a, a ∈ xs ↔ a ∈ ys) :
    xs = ys := by
  have hirrefl : Std.Irrefl fun a b : α ↦ (k a).compare (k b) = .lt :=
    ⟨fun _ hlt ↦ NameKey.ne_of_compare_lt hlt rfl⟩
  have hantisymm : Std.Antisymm fun a b : α ↦ (k a).compare (k b) = .lt := by
    constructor
    intro a b hab hba
    have hgt : (k a).compare (k b) = .gt := Std.OrientedCmp.gt_of_lt hba
    exact absurd (hab.symm.trans hgt) (by decide)
  exact hx.eq_of_mem_iff hy h

variable {s t : Selection}

theorem mem_entries_iff (h : s.WellFormed) {entry : NameKey × String} :
    entry ∈ s.entries ↔ s.spelling? entry.1 = some entry.2 :=
  ⟨lookup_eq_some_of_mem h.increasing, mem_of_spelling?⟩

/-- Two selections are equal when the same names are listed under the same keys. -/
theorem WellFormed.ext (hs : s.WellFormed) (ht : t.WellFormed)
    (h : ∀ key, s.spelling? key = t.spelling? key) : s = t := by
  have hentries : s.entries = t.entries := by
    apply eq_of_increasing hs.increasing ht.increasing
    intro entry
    rw [mem_entries_iff hs, mem_entries_iff ht, h]
  exact congrArg Selection.mk hentries

theorem mem_keys_iff {key : NameKey} : key ∈ s.entries.map Prod.fst ↔ s.containsKey key = true := by
  simp [containsKey]

/-- Selections that list the same keys are of the same size. -/
theorem WellFormed.count_eq (hs : s.WellFormed) (ht : t.WellFormed)
    (h : ∀ key, s.containsKey key = t.containsKey key) : s.count = t.count := by
  have hkeys : s.entries.map Prod.fst = t.entries.map Prod.fst := by
    apply eq_of_increasing (k := id) (List.pairwise_map.2 hs.increasing)
      (List.pairwise_map.2 ht.increasing)
    intro key
    rw [mem_keys_iff, mem_keys_iff, h]
  have hlength := congrArg List.length hkeys
  rwa [List.length_map, List.length_map] at hlength

/-! ## New names -/

theorem insert_of_contains (h : s.WellFormed) {name : String} (hname : s.contains name = true) :
    s.insert name = s := by
  apply (h.insert name).ext h
  intro key
  rw [spelling?_insert h]
  by_cases hkey : NameKey.ofName name = key
  · rw [contains, containsKey_eq_isSome, Option.isSome_iff_exists] at hname
    obtain ⟨listed, hlisted⟩ := hname
    rw [← hkey, hlisted, Option.some_or]
  · rw [if_neg hkey, Option.or_none]

theorem length_insertEntry {key : NameKey} {entries : List (NameKey × String)}
    (h : ∀ entry ∈ entries, entry.1 ≠ key) (name : String) :
    (insertEntry key name entries).length = entries.length + 1 := by
  induction entries with
  | nil => rfl
  | cons head entries ih =>
    obtain ⟨hhead, hentries⟩ := List.forall_mem_cons.1 h
    rw [insertEntry]
    split
    · rfl
    · next heq => exact absurd (NameKey.compare_eq_iff.1 heq).symm hhead
    · rw [List.length_cons, ih hentries, List.length_cons]

theorem count_insert (h : s.WellFormed) (name : String) :
    (s.insert name).count = if s.contains name then s.count else s.count + 1 := by
  split
  · next hname => rw [insert_of_contains h hname]
  · next hname =>
    apply length_insertEntry
    intro entry hentry hkey
    apply hname
    exact List.any_eq_true.2 ⟨entry, hentry, beq_iff_eq.2 hkey⟩

theorem insertAll_cons (s : Selection) (name : String) (names : List String) :
    s.insertAll (name :: names) =
      (((s.insert name).insertAll names).1,
        if s.contains name then ((s.insert name).insertAll names).2
        else ((s.insert name).insertAll names).2 + 1) := rfl

/-- The number of new names is the growth of the selection. -/
theorem count_insertAll (h : s.WellFormed) (names : List String) :
    (s.insertAll names).1.count = s.count + (s.insertAll names).2 := by
  induction names generalizing s with
  | nil => rfl
  | cons name names ih =>
    rw [insertAll_cons, ih (h.insert name), count_insert h]
    split
    · rfl
    · rw [Nat.add_assoc, Nat.add_comm 1]

/-- Adding one list of names and then another is adding both at once. -/
theorem insertAll_append (s : Selection) (xs ys : List String) :
    s.insertAll (xs ++ ys) =
      (((s.insertAll xs).1.insertAll ys).1,
        (s.insertAll xs).2 + ((s.insertAll xs).1.insertAll ys).2) := by
  induction xs generalizing s with
  | nil => simp [insertAll]
  | cons x xs ih =>
    rw [List.cons_append, insertAll_cons, ih, insertAll_cons]
    split
    · rfl
    · rw [Nat.add_right_comm]

/-- Lists of names that agree on the first one under each key are added with the same result. -/
theorem insertAll_congr (h : s.WellFormed) {xs ys : List String}
    (hfirst : ∀ key, (xs.find? fun name ↦ NameKey.ofName name = key) =
      ys.find? fun name ↦ NameKey.ofName name = key) :
    s.insertAll xs = s.insertAll ys := by
  have hresult : (s.insertAll xs).1 = (s.insertAll ys).1 := by
    apply (h.insertAll xs).ext (h.insertAll ys)
    intro key
    rw [spelling?_insertAll h, spelling?_insertAll h, hfirst]
  have hadded : (s.insertAll xs).2 = (s.insertAll ys).2 := by
    have hcount := congrArg count hresult
    rw [count_insertAll h, count_insertAll h] at hcount
    exact Nat.add_left_cancel hcount
  exact Prod.ext hresult hadded

/-! ## Picked names -/

theorem picked_of_resolve {address : String} {candidates : List String} {a : Address}
    (h : Address.resolve address candidates = .ok a) :
    picked address candidates = (a.span candidates.length).slice candidates := by
  unfold picked
  rw [h]

/-- A successful addition adds the names that are picked. -/
theorem add_eq_insertAll {address : String} {candidates : List String} {a : Address}
    (hne : candidates ≠ []) (h : Address.resolve address candidates = .ok a) (s : Selection) :
    s.add address candidates = .ok (s.insertAll (picked address candidates)) := by
  have hempty : candidates.isEmpty = false := List.isEmpty_eq_false_iff.2 hne
  rw [add, hempty, picked_of_resolve h, h]
  rfl

end GameShelf.Selection
