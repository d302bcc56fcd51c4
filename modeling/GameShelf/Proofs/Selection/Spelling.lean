import GameShelf.Proofs.Text.Order
import GameShelf.Selection.Basic

/-!
# Spellings of a selection

In a well-formed selection each name is listed under its own key, and the keys increase. Every
operation keeps a selection well-formed. What is listed under a key is then told by one equation
for each operation: adding names keeps a spelling that is there, and takes the first of the new
names that has the key otherwise; erasing a key leaves the other spellings alone.
-/

namespace GameShelf

instance : Std.TransCmp NameKey.compare :=
  transCmp_on Text.compareBytes NameKey.text

instance : Std.LawfulEqCmp NameKey.compare where
  compare_self := Std.ReflCmp.compare_self
  eq_of_compare {a b} h := by
    cases a
    cases b
    exact congrArg NameKey.mk (Std.LawfulEqCmp.eq_of_compare h)

theorem NameKey.compare_eq_iff {a b : NameKey} : a.compare b = .eq ↔ a = b :=
  Std.LawfulEqCmp.compare_eq_iff_eq

theorem NameKey.ne_of_compare_lt {a b : NameKey} (h : a.compare b = .lt) : a ≠ b := by
  rintro rfl
  rw [compare_eq_iff.2 rfl] at h
  exact absurd h (by decide)

theorem NameKey.ofName_eq_iff {a b : String} :
    ofName a = ofName b ↔ Text.equalFold (Text.trim a) (Text.trim b) = true := by
  rw [Text.equalFold_iff, ofName, ofName, mk.injEq]
  exact String.ofList_inj

namespace Selection

/-! ## Well-formed selections -/

abbrev Increasing (entries : List (NameKey × String)) : Prop :=
  entries.Pairwise fun a b ↦ a.1.compare b.1 = .lt

/-- Each name is listed under its key, and the keys increase. -/
structure WellFormed (s : Selection) : Prop where
  key_eq : ∀ entry ∈ s.entries, entry.1 = NameKey.ofName entry.2
  increasing : Increasing s.entries

theorem wellFormed_empty : empty.WellFormed where
  key_eq _ h := absurd h List.not_mem_nil
  increasing := List.Pairwise.nil

theorem mem_insertEntry {key : NameKey} {name : String} {entries : List (NameKey × String)}
    {entry : NameKey × String} (h : entry ∈ insertEntry key name entries) :
    entry = (key, name) ∨ entry ∈ entries := by
  induction entries with
  | nil => exact .inl (List.mem_singleton.1 h)
  | cons head entries ih =>
    rw [insertEntry] at h
    split at h
    · exact List.mem_cons.1 h
    · exact .inr h
    · rcases List.mem_cons.1 h with rfl | h
      · exact .inr List.mem_cons_self
      · exact (ih h).imp_right (List.mem_cons_of_mem head)

theorem increasing_insertEntry {key : NameKey} {name : String}
    {entries : List (NameKey × String)} (h : Increasing entries) :
    Increasing (insertEntry key name entries) := by
  induction entries with
  | nil => exact List.pairwise_singleton _ _
  | cons head entries ih =>
    obtain ⟨hhead, hentries⟩ := List.pairwise_cons.1 h
    rw [insertEntry]
    split
    · next hlt =>
      have hkey : ∀ entry ∈ head :: entries, key.compare entry.1 = .lt := by
        intro entry hentry
        rcases List.mem_cons.1 hentry with rfl | hentry
        · exact hlt
        · exact Std.TransCmp.lt_trans hlt (hhead entry hentry)
      exact List.pairwise_cons.2 ⟨hkey, h⟩
    · exact h
    · next hgt =>
      have hbelow : ∀ entry ∈ insertEntry key name entries, head.1.compare entry.1 = .lt := by
        intro entry hentry
        rcases mem_insertEntry hentry with rfl | hentry
        · exact Std.OrientedCmp.lt_of_gt hgt
        · exact hhead entry hentry
      exact List.pairwise_cons.2 ⟨hbelow, ih hentries⟩

theorem WellFormed.insert {s : Selection} (h : s.WellFormed) (name : String) :
    (s.insert name).WellFormed where
  key_eq entry hentry := by
    rcases mem_insertEntry hentry with rfl | hentry
    · rfl
    · exact h.key_eq entry hentry
  increasing := increasing_insertEntry h.increasing

theorem WellFormed.erase {s : Selection} (h : s.WellFormed) (key : NameKey) :
    (s.erase key).WellFormed where
  key_eq entry hentry := h.key_eq entry (List.mem_filter.1 hentry).1
  increasing := h.increasing.filter _

theorem WellFormed.insertAll {s : Selection} (h : s.WellFormed) (names : List String) :
    (s.insertAll names).1.WellFormed := by
  induction names generalizing s with
  | nil => exact h
  | cons name names ih => exact ih (h.insert name)

theorem WellFormed.eraseAll {s : Selection} (h : s.WellFormed) (keys : List NameKey) :
    (keys.foldl Selection.erase s).WellFormed := by
  induction keys generalizing s with
  | nil => exact h
  | cons key keys ih => exact ih (h.erase key)

/-! ## The name listed under a key -/

def spelling? (s : Selection) (key : NameKey) : Option String :=
  s.entries.lookup key

theorem lookup_cons_ne {key other : NameKey} (h : key ≠ other) (name : String)
    (entries : List (NameKey × String)) :
    ((other, name) :: entries).lookup key = entries.lookup key := by
  rw [List.lookup_cons, beq_eq_false_iff_ne.2 h]

theorem containsKey_eq_isSome (s : Selection) (key : NameKey) :
    s.containsKey key = (s.spelling? key).isSome := by
  unfold containsKey spelling?
  induction s.entries with
  | nil => rfl
  | cons entry entries ih =>
    obtain ⟨other, name⟩ := entry
    rw [List.any_cons, ih]
    by_cases hkey : key = other
    · rw [hkey, List.lookup_cons_self, beq_self_eq_true]
      rfl
    · rw [lookup_cons_ne hkey, beq_eq_false_iff_ne.2 (Ne.symm hkey), Bool.false_or]

theorem lookup_eq_none_of_lt {key : NameKey} {entries : List (NameKey × String)}
    (h : ∀ entry ∈ entries, key.compare entry.1 = .lt) : entries.lookup key = none := by
  apply List.lookup_eq_none_iff.2
  intro entry hentry
  exact bne_iff_ne.2 (NameKey.ne_of_compare_lt (h entry hentry))

/-- A new name is found under its key unless another one was listed there. -/
theorem lookup_insertEntry {entries : List (NameKey × String)} (h : Increasing entries)
    (new key : NameKey) (name : String) :
    (insertEntry new name entries).lookup key =
      (entries.lookup key).or (if new = key then some name else none) := by
  induction entries with
  | nil =>
    rw [insertEntry, List.lookup_nil, Option.none_or]
    by_cases hkey : new = key
    · rw [hkey, List.lookup_cons_self, if_pos rfl]
    · rw [lookup_cons_ne (Ne.symm hkey), if_neg hkey, List.lookup_nil]
  | cons head entries ih =>
    obtain ⟨other, listed⟩ := head
    obtain ⟨hhead, hentries⟩ := List.pairwise_cons.1 h
    rw [insertEntry]
    split
    · next hlt =>
      by_cases hkey : new = key
      · have hnone : ((other, listed) :: entries).lookup key = none := by
          rw [← hkey]
          apply lookup_eq_none_of_lt
          intro entry hentry
          rcases List.mem_cons.1 hentry with rfl | hentry
          · exact hlt
          · exact Std.TransCmp.lt_trans hlt (hhead entry hentry)
        rw [hnone, hkey, List.lookup_cons_self, if_pos rfl, Option.none_or]
      · rw [lookup_cons_ne (Ne.symm hkey), if_neg hkey, Option.or_none]
    · next heq =>
      obtain rfl : new = other := NameKey.compare_eq_iff.1 heq
      by_cases hkey : new = key
      · rw [hkey, List.lookup_cons_self, Option.some_or]
      · rw [if_neg hkey, Option.or_none]
    · next hgt =>
      by_cases hkey : key = other
      · rw [hkey, List.lookup_cons_self, List.lookup_cons_self, Option.some_or]
      · rw [lookup_cons_ne hkey, lookup_cons_ne hkey, ih hentries]

theorem spelling?_insert {s : Selection} (h : s.WellFormed) (name : String) (key : NameKey) :
    (s.insert name).spelling? key =
      (s.spelling? key).or (if NameKey.ofName name = key then some name else none) :=
  lookup_insertEntry h.increasing _ key name

/-- Of the names that are added, the first one with a key is found under it, unless another one
was listed there before. -/
theorem spelling?_insertAll {s : Selection} (h : s.WellFormed) (names : List String)
    (key : NameKey) :
    (s.insertAll names).1.spelling? key =
      (s.spelling? key).or (names.find? fun name ↦ NameKey.ofName name = key) := by
  induction names generalizing s with
  | nil => exact Option.or_none.symm
  | cons name names ih =>
    calc
      (s.insertAll (name :: names)).1.spelling? key =
          ((s.insert name).insertAll names).1.spelling? key := rfl
      _ = ((s.spelling? key).or (if NameKey.ofName name = key then some name else none)).or
            (names.find? fun name ↦ NameKey.ofName name = key) := by
        rw [ih (h.insert name), spelling?_insert h]
      _ = (s.spelling? key).or
            ((name :: names).find? fun name ↦ NameKey.ofName name = key) := by
        rw [Option.or_assoc, List.find?_cons]
        by_cases hkey : NameKey.ofName name = key
        · simp [hkey]
        · simp [hkey]

theorem spelling?_erase (s : Selection) (erased key : NameKey) :
    (s.erase erased).spelling? key = if key = erased then none else s.spelling? key := by
  unfold spelling? Selection.erase
  dsimp only
  induction s.entries with
  | nil => exact (ite_self _).symm
  | cons entry entries ih =>
    obtain ⟨other, name⟩ := entry
    by_cases hother : other = erased
    · rw [List.filter_cons_of_neg (by simpa using hother), ih]
      by_cases hkey : key = erased
      · rw [if_pos hkey, if_pos hkey]
      · rw [if_neg hkey, if_neg hkey, lookup_cons_ne (by rwa [hother])]
    · rw [List.filter_cons_of_pos (by simpa using hother)]
      by_cases hkey : key = other
      · rw [hkey, if_neg hother, List.lookup_cons_self, List.lookup_cons_self]
      · rw [lookup_cons_ne hkey, lookup_cons_ne hkey, ih]

theorem spelling?_eraseAll (s : Selection) (erased : List NameKey) (key : NameKey) :
    (erased.foldl erase s).spelling? key = if key ∈ erased then none else s.spelling? key := by
  induction erased generalizing s with
  | nil => rfl
  | cons first erased ih =>
    rw [List.foldl_cons, ih, spelling?_erase]
    by_cases hkey : key = first
    · rw [if_pos hkey, ite_self, if_pos (hkey ▸ List.mem_cons_self)]
    · rw [if_neg hkey]
      simp [hkey]

/-! ## Erased keys -/

theorem entries_eraseAll (s : Selection) (keys : List NameKey) :
    (keys.foldl erase s).entries = s.entries.filter fun entry ↦ entry.1 ∉ keys := by
  induction keys generalizing s with
  | nil => exact (List.filter_eq_self.2 (by simp)).symm
  | cons key keys ih => simp [ih, erase, List.filter_filter, Bool.and_comm]

/-- Erasing the keys of entries that follow one another leaves all the other entries. -/
theorem WellFormed.eraseAll_between {s : Selection} (h : s.WellFormed)
    {before middle after : List (NameKey × String)}
    (hentries : s.entries = before ++ middle ++ after) :
    (middle.map Prod.fst).foldl Selection.erase s = ⟨before ++ after⟩ := by
  have hincreasing := h.increasing
  rw [hentries] at hincreasing
  obtain ⟨hfront, -, hafter⟩ := List.pairwise_append.1 hincreasing
  obtain ⟨-, -, hbefore⟩ := List.pairwise_append.1 hfront
  have hbefore_keep : ∀ entry ∈ before, entry.1 ∉ middle.map Prod.fst := by
    intro entry hentry hkey
    obtain ⟨erased, herased, heq⟩ := List.mem_map.1 hkey
    exact NameKey.ne_of_compare_lt (hbefore entry hentry erased herased) heq.symm
  have hafter_keep : ∀ entry ∈ after, entry.1 ∉ middle.map Prod.fst := by
    intro entry hentry hkey
    obtain ⟨erased, herased, heq⟩ := List.mem_map.1 hkey
    exact NameKey.ne_of_compare_lt
      (hafter erased (List.mem_append_right before herased) entry hentry) heq
  have hmiddle : middle.filter (fun entry ↦ entry.1 ∉ middle.map Prod.fst) = [] := by
    rw [List.filter_eq_nil_iff]
    intro entry hentry
    rw [decide_eq_true_iff, Decidable.not_not]
    exact List.mem_map_of_mem hentry
  apply congrArg Selection.mk
  calc
    ((middle.map Prod.fst).foldl Selection.erase s).entries =
        (before ++ middle ++ after).filter fun entry ↦ entry.1 ∉ middle.map Prod.fst := by
      rw [entries_eraseAll, hentries]
    _ = before ++ after := by
      rw [List.filter_append, List.filter_append, hmiddle, List.append_nil,
        List.filter_eq_self.2 fun entry hentry ↦ decide_eq_true (hbefore_keep entry hentry),
        List.filter_eq_self.2 fun entry hentry ↦ decide_eq_true (hafter_keep entry hentry)]

/-! ## Listed names -/

theorem lookup_eq_some_of_mem {entries : List (NameKey × String)} (h : Increasing entries)
    {key : NameKey} {name : String} (hmem : (key, name) ∈ entries) :
    entries.lookup key = some name := by
  induction entries with
  | nil => exact absurd hmem List.not_mem_nil
  | cons head entries ih =>
    obtain ⟨hhead, hentries⟩ := List.pairwise_cons.1 h
    rcases List.mem_cons.1 hmem with rfl | hmem
    · exact List.lookup_cons_self
    · have hne : key ≠ head.1 := (NameKey.ne_of_compare_lt (hhead _ hmem)).symm
      exact (lookup_cons_ne hne head.2 entries).trans (ih hentries hmem)

theorem mem_of_spelling? {s : Selection} {key : NameKey} {name : String}
    (h : s.spelling? key = some name) : (key, name) ∈ s.entries := by
  obtain ⟨before, after, heq, -⟩ := List.lookup_eq_some_iff.1 h
  rw [heq]
  exact List.mem_append_right before List.mem_cons_self

/-- A name is listed if and only if it is what is listed under its key. -/
theorem mem_names_iff {s : Selection} (h : s.WellFormed) {name : String} :
    name ∈ s.names ↔ s.spelling? (NameKey.ofName name) = some name := by
  constructor
  · intro hname
    obtain ⟨entry, hentry, rfl⟩ := List.mem_map.1 hname
    apply lookup_eq_some_of_mem h.increasing
    rw [← h.key_eq entry hentry]
    exact hentry
  · intro hname
    exact List.mem_map.2 ⟨_, mem_of_spelling? hname, rfl⟩

/-- A name is contained if and only if one with its key is listed. -/
theorem contains_iff {s : Selection} (h : s.WellFormed) {name : String} :
    s.contains name = true ↔ ∃ listed ∈ s.names, NameKey.ofName listed = NameKey.ofName name := by
  unfold contains
  rw [containsKey_eq_isSome, Option.isSome_iff_exists]
  constructor
  · rintro ⟨listed, hlisted⟩
    have hmem := mem_of_spelling? hlisted
    exact ⟨listed, List.mem_map.2 ⟨_, hmem, rfl⟩, (h.key_eq _ hmem).symm⟩
  · rintro ⟨listed, hlisted, hkey⟩
    exact ⟨listed, hkey ▸ (mem_names_iff h).1 hlisted⟩

/-- The names increase in the order of their keys. -/
theorem WellFormed.increasing_names {s : Selection} (h : s.WellFormed) :
    s.names.Pairwise fun a b ↦ (NameKey.ofName a).compare (NameKey.ofName b) = .lt := by
  unfold names
  rw [List.pairwise_map]
  apply h.increasing.imp_of_mem
  intro a b ha hb hlt
  rw [← h.key_eq a ha, ← h.key_eq b hb]
  exact hlt

end Selection

end GameShelf
