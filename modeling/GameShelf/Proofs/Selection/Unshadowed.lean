import GameShelf.Proofs.Selection.Removal

/-!
# Addresses that no name shadows

A name hides the number and the range that are written like it, and the wildcard hides a name that
is written like it. But a number may be written with any number of zeros before it, and so much
longer than every name. Each position of a list therefore has an address of its own, whatever the
names are: each candidate can be added alone, and each listed name can be removed alone.
-/

namespace GameShelf

theorem Text.length_strip_le (cs : List Char) : (strip cs).length ≤ cs.length := by
  calc
    (strip cs).length = ((cs.dropWhile isBlank).reverse.dropWhile isBlank).length := by
      rw [strip, List.length_reverse]
    _ ≤ (cs.dropWhile isBlank).reverse.length := (List.dropWhile_sublist _).length_le
    _ = (cs.dropWhile isBlank).length := List.length_reverse
    _ ≤ cs.length := (List.dropWhile_sublist _).length_le

namespace Address

/-- A text that is longer than every name is free. -/
theorem free_of_length_lt {text : String} {names : List String}
    (h : ∀ name ∈ names, name.toList.length < text.toList.length) : Free text names := by
  intro name hname
  rw [← Bool.not_eq_true, Text.equalFold_iff, Text.toList_trim]
  intro heq
  have hlength := congrArg List.length heq
  rw [List.length_map, List.length_map] at hlength
  have hle := Text.length_strip_le name.toList
  have hlt := h name hname
  omega

/-- The number of a position as a range, with as many zeros before it as all the names have
characters. -/
def unshadowed (names : List String) (position : Nat) : String :=
  String.ofList (List.replicate (names.flatMap String.toList).length '0' ++
    Nat.toDigits 10 (position + 1) ++ '-' :: Nat.toDigits 10 (position + 1))

variable {names : List String} {position : Nat}

theorem free_unshadowed (names : List String) (position : Nat) :
    Free (unshadowed names position) names := by
  apply free_of_length_lt
  intro name hname
  have hsublist : name.toList.Sublist (names.flatMap String.toList) :=
    List.sublist_flatten_of_mem (List.mem_map_of_mem hname)
  calc
    name.toList.length ≤ (names.flatMap String.toList).length := hsublist.length_le
    _ < (unshadowed names position).toList.length := by
      simp only [unshadowed, String.toList_ofList, List.length_append, List.length_replicate,
        List.length_cons]
      omega

theorem natural?_unshadowed (names : List String) (position : Nat) :
    Numeral.natural? (List.replicate (names.flatMap String.toList).length '0' ++
      Nat.toDigits 10 (position + 1)) = some (position + 1) :=
  Numeral.natural?_replicate_zero (Numeral.natural?_toDigits _) _

/-- Each position has an address of its own. -/
theorem resolve_unshadowed (hsize : names.length < UInt64.size) (h : position < names.length) :
    resolve (unshadowed names position) names = .ok (.range (position + 1) (position + 1)) := by
  have hlast : position + 1 < UInt64.size := Nat.lt_of_le_of_lt h hsize
  have hresolve := resolve_range (free_unshadowed names position)
    (natural?_unshadowed names position) (Numeral.natural?_toDigits _) hlast (Nat.succ_pos _)
    (Nat.le_refl _) h
  rwa [Nat.min_eq_left h] at hresolve

theorem isWildcard_unshadowed (names : List String) (position : Nat) :
    isWildcard (unshadowed names position) = false := by
  obtain ⟨⟨hne, hdigits⟩, -⟩ := Numeral.natural?_eq_some_iff.1 (natural?_unshadowed names position)
  obtain ⟨c, hc⟩ := List.exists_mem_of_ne_nil _ hne
  exact isWildcard_of_isDigit (List.mem_append_left _ hc) (hdigits c hc)

end Address

namespace Selection

/-! ## Single candidates and entries -/

theorem picked_unshadowed {candidates : List String} (hsize : candidates.length < UInt64.size)
    {position : Nat} (h : position < candidates.length) :
    picked (Address.unshadowed candidates position) candidates = [candidates[position]] := by
  rw [picked_of_resolve (Address.resolve_unshadowed hsize h)]
  exact Span.slice_one h

theorem add_unshadowed {candidates : List String} (hsize : candidates.length < UInt64.size)
    {position : Nat} (h : position < candidates.length) (s : Selection) :
    s.add (Address.unshadowed candidates position) candidates =
      .ok (s.insert candidates[position], if s.contains candidates[position] then 0 else 1) := by
  have hne : candidates ≠ [] := List.ne_nil_of_length_pos (Nat.zero_lt_of_lt h)
  rw [add_eq_insertAll hne (Address.resolve_unshadowed hsize h), picked_unshadowed hsize h]
  rfl

variable {s : Selection} {before after : List (NameKey × String)} {entry : NameKey × String}

theorem remove_unshadowed (h : s.WellFormed) (hsize : s.count < UInt64.size)
    (hentries : s.entries = before ++ entry :: after) :
    s.remove (Address.unshadowed s.names before.length) = .ok (⟨before ++ after⟩, 1) := by
  have hposition : before.length < s.count := by
    simp [count, hentries]
  have hresolve := Address.resolve_unshadowed (s.length_names.symm ▸ hsize)
    (s.length_names.symm ▸ hposition)
  have hwithout : s.without ⟨before.length, before.length + 1⟩ = ⟨before ++ after⟩ := by
    simp [without, hentries]
  calc
    s.remove (Address.unshadowed s.names before.length) =
        .ok (s.without ⟨before.length, before.length + 1⟩, before.length + 1 - before.length) :=
      remove_of_resolve h (Address.isWildcard_unshadowed _ _) (Nat.ne_zero_of_lt hposition) hresolve
    _ = .ok (⟨before ++ after⟩, 1) := by rw [hwithout, Nat.add_sub_cancel_left]

/-- Whatever the names are, each position of a list has an address that stands for it alone. So each
listed name can be removed without any other, and each candidate can be added without any other.
Lists in memory are shorter than the greatest number of 64 bits. -/
theorem exists_unshadowed :
    (∀ names : List String, names.length < UInt64.size → ∀ position < names.length,
      ∃ address a, Address.resolve address names = .ok a ∧
        a.span names.length = ⟨position, position + 1⟩) ∧
      (∀ s : Selection, s.Reachable → s.count < UInt64.size →
        ∀ before entry after, s.entries = before ++ entry :: after →
          ∃ address, s.remove address = .ok (⟨before ++ after⟩, 1)) ∧
      ∀ candidates : List String, candidates.length < UInt64.size →
        ∀ position, ∀ h : position < candidates.length,
          ∃ address, picked address candidates = [candidates[position]] ∧
            ∀ s : Selection, s.add address candidates =
              .ok (s.insert candidates[position],
                if s.contains candidates[position] then 0 else 1) := by
  refine ⟨?_, ?_, ?_⟩
  · intro names hsize position h
    exact ⟨_, _, Address.resolve_unshadowed hsize h, rfl⟩
  · intro s h hsize before entry after hentries
    exact ⟨_, remove_unshadowed h.wellFormed hsize hentries⟩
  · intro candidates hsize position h
    exact ⟨_, picked_unshadowed hsize h, add_unshadowed hsize h⟩

/-- Names that are written like the wildcard, numbers and a range, and a blank one. -/
theorem exists_unshadowed_lookalikes :
    let names := ["ALL", "1", "1-1", "+1", " ", "01-1"]
    (∃ address a, Address.resolve address names = .ok a ∧ a.span names.length = ⟨0, 1⟩) ∧
      (∃ address, Selection.remove ⟨[(.ofName " ", " "), (.ofName "ALL", "ALL")]⟩ address =
        .ok (⟨[(.ofName " ", " ")]⟩, 1)) ∧
      ∃ address, empty.add address names = .ok (⟨[(.ofName "ALL", "ALL")]⟩, 1) := by
  intro names
  obtain ⟨hresolve, hremove, hadd⟩ := exists_unshadowed
  have hblank : empty.add "all" ["ALL", " "] =
      .ok (⟨[(.ofName " ", " "), (.ofName "ALL", "ALL")]⟩, 2) := by decide +kernel
  refine ⟨hresolve names (by decide) 0 (by decide), ?_, ?_⟩
  · exact hremove _ (.add .empty hblank) (by decide) [_] _ [] rfl
  · obtain ⟨address, -, haddress⟩ := hadd names (by decide) 0 (by decide)
    exact ⟨address, haddress empty⟩

end Selection

end GameShelf
