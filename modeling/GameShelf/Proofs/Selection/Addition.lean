import GameShelf.Proofs.Selection.Union
import Mathlib.Data.Set.Card

/-!
# What an addition lists

An addition is a union in which spellings do not change. Under a key that is listed the spelling
stays; under any other key the first name that is picked and has it is listed, whatever else is
picked under the same key. The number that is told is the number of keys that were not listed
before, however many names are picked, so the same addition made again tells none and changes
nothing.
-/

namespace GameShelf.Selection

/-! ## New keys -/

/-- The keys that are listed in a selection and not in an earlier one. -/
def newKeys (earlier s : Selection) : Set NameKey :=
  {key | s.containsKey key = true ∧ earlier.containsKey key = false}

variable {s t : Selection}

theorem WellFormed.nodup_keys (h : s.WellFormed) : (s.entries.map Prod.fst).Nodup := by
  rw [List.Nodup, List.pairwise_map]
  exact h.increasing.imp NameKey.ne_of_compare_lt

/-- A selection that keeps all keys of an earlier one has grown by its new keys. -/
theorem count_add_ncard_newKeys (hs : s.WellFormed) (ht : t.WellFormed)
    (hkept : ∀ key, s.containsKey key = true → t.containsKey key = true) :
    s.count + (newKeys s t).ncard = t.count := by
  let keys (u : Selection) : Finset NameKey := (u.entries.map Prod.fst).toFinset
  have hmem (u : Selection) (key : NameKey) : key ∈ keys u ↔ u.containsKey key = true :=
    List.mem_toFinset.trans mem_keys_iff
  have hcard {u : Selection} (hu : u.WellFormed) : (keys u).card = u.count := by
    rw [List.toFinset_card_of_nodup hu.nodup_keys, List.length_map, count]
  have hnew : newKeys s t = ↑(keys t \ keys s) := by
    ext key
    rw [Finset.mem_coe, Finset.mem_sdiff, hmem, hmem, Bool.not_eq_true]
    rfl
  have hsubset : keys s ⊆ keys t := by
    intro key hkey
    exact (hmem t key).2 (hkept key ((hmem s key).1 hkey))
  rw [hnew, Set.ncard_coe_finset, Nat.add_comm, ← hcard hs, ← hcard ht]
  exact Finset.card_sdiff_add_card_eq_card hsubset

variable {names : List String}

theorem containsKey_insertAll (h : s.WellFormed) (names : List String) (key : NameKey) :
    (s.insertAll names).1.containsKey key =
      (s.containsKey key || names.any fun name ↦ NameKey.ofName name = key) := by
  rw [containsKey_eq_isSome, spelling?_insertAll h, Option.isSome_or, List.isSome_find?,
    containsKey_eq_isSome]

/-- Names are told to be new as often as there are new keys. -/
theorem ncard_newKeys_insertAll (h : s.WellFormed) (names : List String) :
    (newKeys s (s.insertAll names).1).ncard = (s.insertAll names).2 := by
  have hkept : ∀ key, s.containsKey key = true →
      (s.insertAll names).1.containsKey key = true := by
    intro key hkey
    rw [containsKey_insertAll h, hkey, Bool.true_or]
  have hgrowth := count_add_ncard_newKeys h (h.insertAll names) hkept
  rw [count_insertAll h] at hgrowth
  exact Nat.add_left_cancel hgrowth

/-! ## Names that are listed already -/

theorem insertAll_of_forall_contains (h : s.WellFormed)
    (hnames : ∀ name ∈ names, s.contains name = true) : s.insertAll names = (s, 0) := by
  induction names with
  | nil => rfl
  | cons name names ih =>
    obtain ⟨hname, hnames⟩ := List.forall_mem_cons.1 hnames
    rw [insertAll_cons, insert_of_contains h hname, ih hnames, if_pos hname]

/-- Names that have just been added are not new. -/
theorem insertAll_insertAll (h : s.WellFormed) (names : List String) :
    (s.insertAll names).1.insertAll names = ((s.insertAll names).1, 0) := by
  apply insertAll_of_forall_contains (h.insertAll names)
  intro name hname
  have hany : (names.any fun other ↦ NameKey.ofName other = NameKey.ofName name) = true :=
    List.any_eq_true.2 ⟨name, hname, decide_eq_true rfl⟩
  rw [contains, containsKey_insertAll h, hany, Bool.or_true]

/-! ## Adding by an address -/

variable {address : String} {candidates : List String}

/-- From candidates an address picks what it stands for, or it fails with the same error. -/
theorem add_of_ne_nil (hne : candidates ≠ []) (s : Selection) (address : String) :
    s.add address candidates = (Address.resolve address candidates).map fun a ↦
      s.insertAll ((a.span candidates.length).slice candidates) := by
  rw [add, List.isEmpty_eq_false_iff.2 hne]
  rfl

theorem add_eq_error_iff_resolve (hne : candidates ≠ []) (e : SelectionError) :
    s.add address candidates = .error e ↔ Address.resolve address candidates = .error e := by
  rw [add_of_ne_nil hne]
  cases Address.resolve address candidates with
  | error cause => simp [Except.map]
  | ok a => simp [Except.map]

/-- From a list of candidates an address adds what it stands for there, or fails with the same
error. Then every spelling that was listed is listed still; under every other key the first name
that is picked with the key is listed, and nothing if there is none; the number that is told is the
number of keys that are new, by which the selection has grown; and adding once more tells none and
changes nothing. -/
theorem add_keeps_first_spellings (h : s.Reachable) (address : String)
    (hne : candidates ≠ []) :
    (∀ e, s.add address candidates = .error e ↔ Address.resolve address candidates = .error e) ∧
      ∀ a, Address.resolve address candidates = .ok a →
        ∃ t added, s.add address candidates = .ok (t, added) ∧
          (∀ key name, s.spelling? key = some name → t.spelling? key = some name) ∧
          (∀ key, s.spelling? key = none → t.spelling? key =
            ((a.span candidates.length).slice candidates).find? fun name ↦
              NameKey.ofName name = key) ∧
          (newKeys s t).ncard = added ∧ t.count = s.count + added ∧
          t.add address candidates = .ok (t, 0) := by
  refine ⟨add_eq_error_iff_resolve hne, ?_⟩
  intro a hresolve
  let picked := (a.span candidates.length).slice candidates
  have hadd (u : Selection) : u.add address candidates = .ok (u.insertAll picked) := by
    rw [add_of_ne_nil hne, hresolve]
    rfl
  have hspelling := spelling?_insertAll h.wellFormed picked
  refine ⟨(s.insertAll picked).1, (s.insertAll picked).2, hadd s, ?_, ?_, ?_, ?_, ?_⟩
  · intro key name hname
    rw [hspelling, hname, Option.some_or]
  · intro key hkey
    rw [hspelling, hkey, Option.none_or]
  · exact ncard_newKeys_insertAll h.wellFormed picked
  · exact count_insertAll h.wellFormed picked
  · rw [hadd, insertAll_insertAll h.wellFormed]

/-- Of three names that are picked, one is listed already and two are spellings of one name. -/
theorem add_keeps_first_spellings_respelled :
    let s : Selection := ⟨[(.ofName "Go Fish", " Go Fish")]⟩
    let candidates := ["GO FISH", "Chess", "CHESS ", "Risk"]
    s.Reachable ∧ candidates ≠ [] ∧
      s.add "5" candidates = .error (.indexOutOfRange 5 4) ∧
      ∃ t, s.add "1 - 3" candidates = .ok (t, 1) ∧
        t.spelling? (.ofName "go fish") = some " Go Fish" ∧
        t.spelling? (.ofName "chess") = some "Chess" ∧
        t.spelling? (.ofName "risk") = none ∧
        (newKeys s t).ncard = 1 ∧ t.count = s.count + 1 ∧
        t.add "1 - 3" candidates = .ok (t, 0) := by
  intro s candidates
  have hadd : empty.add "1" [" Go Fish"] = .ok (s, 1) := by decide +kernel
  have hs : s.Reachable := .add .empty hadd
  have hne : candidates ≠ [] := List.cons_ne_nil _ _
  have hfails := (add_keeps_first_spellings hs "5" hne).1 (.indexOutOfRange 5 4)
  obtain ⟨t, added, hsum, hkept, hfirst, hnew, hgrowth, hagain⟩ :=
    (add_keeps_first_spellings hs "1 - 3" hne).2 (.range 1 3) (by decide +kernel)
  have htold : s.add "1 - 3" candidates =
      .ok (⟨[(.ofName "Chess", "Chess"), (.ofName "Go Fish", " Go Fish")]⟩, 1) := by
    decide +kernel
  obtain rfl : added = 1 := congrArg Prod.snd (Except.ok.inj (hsum.symm.trans htold))
  refine ⟨hs, hne, hfails.2 (by decide +kernel), t, hsum, ?_, ?_, ?_, hnew, hgrowth, hagain⟩
  · exact hkept _ _ (by decide +kernel)
  · exact (hfirst _ (by decide +kernel)).trans (by decide +kernel)
  · exact (hfirst _ (by decide +kernel)).trans (by decide +kernel)

end GameShelf.Selection
