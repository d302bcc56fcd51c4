import GameShelf.Proofs.Selection.Address

/-!
# Adding one by one

Adding each candidate by its own name, one after another, is adding all of them at once. A candidate
may be called like the wildcard, which adds all candidates early, and it may share its key with an
earlier one, which is added in its place: neither changes which name comes first under a key.
Adding the numbers of a range one after another is adding the range, as long as no candidate is
called like the range or like one of the numbers.
-/

namespace GameShelf

namespace Selection

/-- Adds the candidates at several addresses, one address after another, and tells how many names
are new in all. The first address that fails is an error of the whole. -/
def addEach (s : Selection) (candidates : List String) :
    List String → Except SelectionError (Selection × Nat)
  | [] => .ok (s, 0)
  | address :: addresses =>
    (s.add address candidates).bind fun (t, added) ↦
      (t.addEach candidates addresses).map fun (u, more) ↦ (u, added + more)

/-- When every address stands for something, what is picked at all of them is added. -/
theorem addEach_eq_insertAll {candidates : List String} (hne : candidates ≠ [])
    {addresses : List String}
    (h : ∀ address ∈ addresses, ∃ a, Address.resolve address candidates = .ok a) (s : Selection) :
    s.addEach candidates addresses =
      .ok (s.insertAll (addresses.flatMap fun address ↦ picked address candidates)) := by
  induction addresses generalizing s with
  | nil => rfl
  | cons address addresses ih =>
    obtain ⟨⟨a, ha⟩, haddresses⟩ := List.forall_mem_cons.1 h
    rw [addEach, add_eq_insertAll hne ha, List.flatMap_cons, insertAll_append]
    change Except.map _ (addEach _ candidates addresses) = _
    rw [ih haddresses]
    rfl

/-! ## Candidates by their names -/

theorem picked_of_isWildcard {address : String} (h : Address.isWildcard address = true)
    (candidates : List String) : picked address candidates = candidates := by
  rw [picked_of_resolve (Address.resolve_of_isWildcard h candidates)]
  exact Span.slice_all candidates

/-- The first candidate with the key of a name is picked under the name. -/
theorem picked_of_mem {name : String} {candidates : List String}
    (hwild : Address.isWildcard name = false) (h : name ∈ candidates) :
    picked name candidates =
      (candidates.find? fun other ↦ NameKey.ofName other = NameKey.ofName name).toList := by
  obtain ⟨position, hresolve, hposition⟩ := Address.resolve_of_mem hwild h
  rw [picked_of_resolve hresolve]
  exact Span.slice_of_findIdx? hposition

theorem ofName_of_find? {candidates : List String} {key : NameKey} {first : String}
    (h : (candidates.find? fun other ↦ NameKey.ofName other = key) = some first) :
    NameKey.ofName first = key := by
  have hfirst := List.find?_some h
  exact of_decide_eq_true hfirst

/-- Under its own name a candidate picks the candidate that comes first under its key. Under another
key it picks no candidate or, if it is called like the wildcard, again the one that comes first. -/
theorem find?_picked {name : String} {candidates : List String} (h : name ∈ candidates)
    (key : NameKey) :
    (picked name candidates).find? (fun other ↦ NameKey.ofName other = key) =
      if Address.isWildcard name = true ∨ NameKey.ofName name = key then
        candidates.find? fun other ↦ NameKey.ofName other = key
      else none := by
  by_cases hwild : Address.isWildcard name = true
  · rw [picked_of_isWildcard hwild, if_pos (.inl hwild)]
  · rw [picked_of_mem (Bool.eq_false_iff.2 hwild) h]
    by_cases hkey : NameKey.ofName name = key
    · rw [if_pos (.inr hkey), ← hkey]
      cases hfirst : candidates.find? fun other ↦ NameKey.ofName other = NameKey.ofName name with
      | none => rfl
      | some first => exact List.find?_cons_of_pos (decide_eq_true (ofName_of_find? hfirst))
    · rw [if_neg (not_or_intro hwild hkey), List.find?_eq_none]
      intro other hother
      rw [decide_eq_true_iff, ofName_of_find? (Option.mem_toList.1 hother)]
      exact hkey

theorem findSome?_eq_of_forall {α β : Type} {f : α → Option β} {xs : List α} {o : Option β}
    (h : ∀ x ∈ xs, f x = none ∨ f x = o) (ho : o = none ∨ ∃ x ∈ xs, f x = o) :
    xs.findSome? f = o := by
  cases hfound : xs.findSome? f with
  | none =>
    rcases ho with rfl | ⟨x, hx, rfl⟩
    · rfl
    · exact (List.findSome?_eq_none_iff.1 hfound x hx).symm
  | some y =>
    obtain ⟨x, hx, hy⟩ := List.exists_of_findSome?_eq_some hfound
    rcases h x hx with hnone | hsome
    · exact absurd (hy.symm.trans hnone) (Option.some_ne_none y)
    · exact hy.symm.trans hsome

/-- What candidates pick under their own names comes first under the same keys as the candidates. -/
theorem find?_flatMap_picked (candidates : List String) (key : NameKey) :
    (candidates.flatMap fun name ↦ picked name candidates).find?
        (fun other ↦ NameKey.ofName other = key) =
      candidates.find? fun other ↦ NameKey.ofName other = key := by
  rw [List.find?_flatMap]
  -- Whichever name picks under the key first, the wildcard or one with the key, picks the same.
  apply findSome?_eq_of_forall
  · intro name hname
    rw [find?_picked hname]
    split
    · exact .inr rfl
    · exact .inl rfl
  · cases hfirst : candidates.find? fun other ↦ NameKey.ofName other = key with
    | none => exact .inl rfl
    | some first =>
      have hmem := List.mem_of_find?_eq_some hfirst
      refine .inr ⟨first, hmem, ?_⟩
      rw [find?_picked hmem, if_pos (.inr (ofName_of_find? hfirst)), hfirst]

theorem exists_resolve_of_mem {name : String} {candidates : List String} (h : name ∈ candidates) :
    ∃ a, Address.resolve name candidates = .ok a := by
  cases hwild : Address.isWildcard name with
  | false =>
    obtain ⟨position, hresolve, -⟩ := Address.resolve_of_mem hwild h
    exact ⟨_, hresolve⟩
  | true => exact ⟨.all, Address.resolve_of_isWildcard hwild candidates⟩

variable {s : Selection} {candidates : List String}

/-- Adding each candidate by its own name is adding all of them. -/
theorem addEach_names (h : s.WellFormed) (hne : candidates ≠ []) :
    s.addEach candidates candidates = .ok (s.insertAll candidates) := by
  rw [addEach_eq_insertAll hne fun name ↦ exists_resolve_of_mem]
  exact congrArg Except.ok (insertAll_congr h (find?_flatMap_picked candidates))

theorem add_wildcard (hne : candidates ≠ []) (s : Selection) :
    s.add Address.wildcard candidates = .ok (s.insertAll candidates) := by
  have hwild : Address.isWildcard Address.wildcard = true := by decide
  rw [add_eq_insertAll hne (Address.resolve_of_isWildcard hwild candidates),
    picked_of_isWildcard hwild]

/-! ## Ranges by their numbers -/

/-- Adding the numbers of a range one after another is adding the range. -/
theorem addEach_numbers {first last : Nat} (hfirst : 1 ≤ first) (hle : first ≤ last)
    (hlast : last ≤ candidates.length)
    (hsize : (candidates.length : Int) ≤ Int64.maxValue.toInt)
    (hfree : ∀ number, first ≤ number → number ≤ last → Address.Free number.repr candidates)
    (s : Selection) :
    s.addEach candidates ((List.range' first (last + 1 - first)).map Nat.repr) =
      .ok (s.insertAll ((Span.mk (first - 1) last).slice candidates)) := by
  have hresolve : ∀ number ∈ List.range' first (last + 1 - first),
      Address.resolve number.repr candidates = .ok (.index number) := by
    intro number hnumber
    obtain ⟨hge, hlt⟩ := List.mem_range'_1.1 hnumber
    apply Address.resolve_index (hfree number hge (by omega)) (Numeral.natural?_toDigits number)
    · omega
    · omega
    · omega
  have hne : candidates ≠ [] := List.ne_nil_of_length_pos (by omega)
  have hpicked : (List.range' first (last + 1 - first)).flatMap
      (fun number ↦ picked number.repr candidates) =
        (Span.mk (first - 1) last).slice candidates := by
    calc
      (List.range' first (last + 1 - first)).flatMap (fun number ↦ picked number.repr candidates) =
          (List.range' first (last + 1 - first)).flatMap
            fun number ↦ (Span.mk (number - 1) number).slice candidates := by
        apply List.flatMap_congr
        intro number hnumber
        rw [picked_of_resolve (hresolve number hnumber)]
        rfl
      _ = (Span.mk (first - 1) (first - 1 + (last + 1 - first))).slice candidates := by
        rw [← Span.flatMap_slice, Nat.sub_add_cancel hfirst]
      _ = (Span.mk (first - 1) last).slice candidates := by
        rw [show first - 1 + (last + 1 - first) = last by omega]
  rw [addEach_eq_insertAll hne, List.flatMap_map, hpicked]
  intro address haddress
  obtain ⟨number, hnumber, rfl⟩ := List.mem_map.1 haddress
  exact ⟨_, hresolve number hnumber⟩

theorem add_rangeText {first last : Nat} (hfirst : 1 ≤ first) (hle : first ≤ last)
    (hstart : first ≤ candidates.length) (hlast : last < UInt64.size)
    (hfree : Address.Free (Address.rangeText first last) candidates) (s : Selection) :
    s.add (Address.rangeText first last) candidates =
      .ok (s.insertAll ((Span.mk (first - 1) (min last candidates.length)).slice candidates)) := by
  rw [Address.rangeText_eq] at hfree ⊢
  have hresolve := Address.resolve_range hfree (Numeral.natural?_toDigits first)
    (Numeral.natural?_toDigits last) hlast hfirst hle hstart
  have hne : candidates ≠ [] := List.ne_nil_of_length_pos (by omega)
  rw [add_eq_insertAll hne hresolve, picked_of_resolve hresolve]
  rfl

/-- Adding all candidates at once is adding each of them by its own name. Adding a range, whose last
number may exceed the number of candidates, is adding its numbers one after another, if no candidate
is called like the range or one of the numbers. No more candidates than the greatest number of
64 bits fit into memory. -/
theorem addEach_eq_add (h : s.Reachable) (candidates : List String) :
    (candidates ≠ [] → ∃ t added,
      s.addEach candidates candidates = .ok (t, added) ∧
        s.add Address.wildcard candidates = .ok (t, added)) ∧
      ∀ first last, 1 ≤ first → first ≤ candidates.length → first ≤ last → last < UInt64.size →
        (candidates.length : Int) ≤ Int64.maxValue.toInt →
        Address.Free (Address.rangeText first last) candidates →
        (∀ number, first ≤ number → number ≤ min last candidates.length →
          Address.Free number.repr candidates) →
        ∃ t added,
          s.addEach candidates ((List.range' first (min last candidates.length + 1 - first)).map
            Nat.repr) = .ok (t, added) ∧
            s.add (Address.rangeText first last) candidates = .ok (t, added) := by
  constructor
  · intro hne
    exact ⟨_, _, addEach_names h.wellFormed hne, add_wildcard hne s⟩
  · intro first last hfirst hstart hle hlast hsize hfree hnumbers
    refine ⟨_, _, addEach_numbers hfirst (Nat.le_min.2 ⟨hle, hstart⟩) (Nat.min_le_right _ _) hsize
      hnumbers s, ?_⟩
    exact add_rangeText hfirst hle hstart hlast hfree s

/-- Candidates that are blank or called like the wildcard, a number or a range, of which one is
listed already. -/
theorem addEach_eq_add_lookalikes :
    let s : Selection := ⟨[(.ofName "All", "All")]⟩
    let candidates := ["2", "", "all", "1-3", " ALL ", "Go"]
    s.Reachable ∧ Address.Free "4-9" candidates ∧
      (∀ number ∈ [4, 5, 6], Address.Free number.repr candidates) ∧
      (∃ t added, s.addEach candidates candidates = .ok (t, added) ∧
        s.add "ALL" candidates = .ok (t, added)) ∧
      ∃ t added, s.addEach candidates ["4", "5", "6"] = .ok (t, added) ∧
        s.add "4-9" candidates = .ok (t, added) := by
  intro s candidates
  have hadd : empty.add "1" ["All"] = .ok (s, 1) := by decide +kernel
  have hs : s.Reachable := .add .empty hadd
  have hfree : Address.Free "4-9" candidates := by decide +kernel
  have hnumbers : ∀ number ∈ List.range' 4 3, Address.Free number.repr candidates := by
    decide +kernel
  obtain ⟨hall, hrange⟩ := addEach_eq_add hs candidates
  refine ⟨hs, hfree, hnumbers, hall (List.cons_ne_nil _ _), ?_⟩
  apply hrange 4 9 (by decide) (by decide) (by decide) (by decide) (by decide) hfree
  intro number hge hle
  exact hnumbers number (List.mem_range'_1.2 ⟨hge, Nat.lt_succ_of_le hle⟩)

end Selection

end GameShelf
