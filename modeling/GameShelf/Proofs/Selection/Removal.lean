import GameShelf.Proofs.Selection.Resolution

/-!
# What a removal leaves

A removal reads positions off the list of names, but it erases keys. In a well-formed selection the
keys of the names at some positions belong to no other names. So the names at all other positions
are left, as they were spelled and in their order, and the number that is told is the number of the
names that are gone.
-/

namespace GameShelf

namespace Span

variable {α β : Type} {span : Span}

theorem map_slice (f : α → β) (span : Span) (xs : List α) :
    (span.slice xs).map f = span.slice (xs.map f) := by
  rw [slice, slice, List.map_drop, List.map_take]

/-- The elements before some positions, at them and after them. -/
theorem take_append_slice_append_drop (h : span.start ≤ span.stop) (xs : List α) :
    xs.take span.start ++ span.slice xs ++ xs.drop span.stop = xs := by
  have hstart : (xs.take span.stop).take span.start = xs.take span.start := by
    rw [List.take_take, Nat.min_eq_left h]
  rw [slice, ← hstart, List.take_append_drop, List.take_append_drop]

end Span

namespace Selection

/-- The selection without the names at some positions. -/
def without (s : Selection) (span : Span) : Selection where
  entries := s.entries.take span.start ++ s.entries.drop span.stop

variable {s : Selection} {span : Span}

theorem names_without (s : Selection) (span : Span) :
    (s.without span).names = s.names.take span.start ++ s.names.drop span.stop := by
  simp only [names, without, List.map_append, List.map_take, List.map_drop]

theorem count_without (h : span.start ≤ span.stop) (hsize : span.stop ≤ s.count) :
    (s.without span).count + span.size = s.count := by
  simp only [count, without, Span.size, List.length_append, List.length_take, List.length_drop]
    at hsize ⊢
  omega

/-- The names at some positions have the keys of the entries there. -/
theorem WellFormed.keys_slice (h : s.WellFormed) (span : Span) :
    (span.slice s.names).map NameKey.ofName = (span.slice s.entries).map Prod.fst := by
  have hkeys : s.names.map NameKey.ofName = s.entries.map Prod.fst := by
    rw [names, List.map_map]
    exact List.map_congr_left fun entry hentry ↦ (h.key_eq entry hentry).symm
  rw [Span.map_slice, Span.map_slice, hkeys]

/-- Erasing the keys of the names at some positions erases these names and no others. -/
theorem WellFormed.eraseAll_slice (h : s.WellFormed) (hspan : span.start ≤ span.stop) :
    ((span.slice s.names).map NameKey.ofName).foldl Selection.erase s = s.without span := by
  rw [h.keys_slice]
  exact h.eraseAll_between (Span.take_append_slice_append_drop hspan s.entries).symm

/-! ## Removing by an address -/

variable {address : String} {a : Address}

theorem remove_of_isWildcard (h : Address.isWildcard address = true) (s : Selection) :
    s.remove address = .ok (empty, s.count) :=
  if_pos h

theorem remove_of_count_eq_zero (hwild : Address.isWildcard address = false) (h : s.count = 0) :
    s.remove address = .error .emptyList := by
  have hempty : s.isEmpty = true := List.isEmpty_iff_length_eq_zero.2 h
  rw [remove, hwild, hempty]
  rfl

/-- In a list with names, an address that is not the wildcard is resolved. -/
theorem remove_of_count_ne_zero (hwild : Address.isWildcard address = false) (h : s.count ≠ 0) :
    s.remove address = (Address.resolve address s.names).map fun a ↦
      ((((a.span s.count).slice s.names).map NameKey.ofName).foldl erase s,
        (a.span s.count).size) := by
  have hempty : s.isEmpty = false := by
    rw [isEmpty, List.isEmpty_eq_false_iff, ← List.length_pos_iff]
    exact Nat.pos_of_ne_zero h
  rw [remove, hwild, hempty]
  rfl

theorem span_bounds_of_resolve (h : s.count ≠ 0)
    (hresolve : Address.resolve address s.names = .ok a) :
    (a.span s.count).start < (a.span s.count).stop ∧ (a.span s.count).stop ≤ s.count := by
  have hne : s.names ≠ [] := by
    rw [← List.length_pos_iff, length_names]
    exact Nat.pos_of_ne_zero h
  have hstands := Address.standsFor_resolve address s.names
  rw [hresolve] at hstands
  have hbounds := hstands.span_bounds.2 hne
  rwa [length_names] at hbounds

theorem remove_of_resolve (hs : s.WellFormed) (hwild : Address.isWildcard address = false)
    (h : s.count ≠ 0) (hresolve : Address.resolve address s.names = .ok a) :
    s.remove address = .ok (s.without (a.span s.count), (a.span s.count).size) := by
  have hspan := (span_bounds_of_resolve h hresolve).1.le
  rw [remove_of_count_ne_zero hwild h, hresolve]
  exact congrArg (fun t ↦ Except.ok (t, (a.span s.count).size)) (hs.eraseAll_slice hspan)

theorem remove_eq_error_iff (hwild : Address.isWildcard address = false) (h : s.count ≠ 0)
    (e : SelectionError) :
    s.remove address = .error e ↔ Address.resolve address s.names = .error e := by
  rw [remove_of_count_ne_zero hwild h]
  cases Address.resolve address s.names with
  | error cause => simp [Except.map]
  | ok a => simp [Except.map]

/-- The wildcard removes everything, even from the selection without names, where any other address
is an error. From another selection an address removes what it stands for in the list of names, or
fails with the same error. Then exactly the names at its positions are gone, the others are listed
as before, and the number that is told is the number of names that are gone. -/
theorem remove_addressed (h : s.Reachable) (address : String) :
    (Address.isWildcard address = true → s.remove address = .ok (empty, s.count)) ∧
      (Address.isWildcard address = false → s.count = 0 →
        s.remove address = .error .emptyList) ∧
      (Address.isWildcard address = false → s.count ≠ 0 →
        (∀ e, s.remove address = .error e ↔ Address.resolve address s.names = .error e) ∧
          ∀ a, Address.resolve address s.names = .ok a →
            ∃ t, s.remove address = .ok (t, (a.span s.count).stop - (a.span s.count).start) ∧
              t.names = s.names.take (a.span s.count).start ++
                s.names.drop (a.span s.count).stop ∧
              t.count + ((a.span s.count).stop - (a.span s.count).start) = s.count ∧
              (a.span s.count).start < (a.span s.count).stop ∧
              (a.span s.count).stop ≤ s.count) := by
  refine ⟨fun hwild ↦ remove_of_isWildcard hwild s, remove_of_count_eq_zero, ?_⟩
  intro hwild hcount
  refine ⟨remove_eq_error_iff hwild hcount, ?_⟩
  intro a hresolve
  obtain ⟨hlt, hle⟩ := span_bounds_of_resolve hcount hresolve
  exact ⟨s.without (a.span s.count), remove_of_resolve h.wellFormed hwild hcount hresolve,
    names_without s _, count_without hlt.le hle, hlt, hle⟩

/-- A name hides the range that is written like it, the wildcard hides a name, and blanks do not
tell a name from another. -/
theorem remove_addressed_lookalikes :
    let s : Selection := ⟨[(.ofName "2-9", "2-9"), (.ofName "all", "ALL"), (.ofName "go", " Go")]⟩
    s.remove " all" = .ok (empty, 3) ∧
      empty.remove "1" = .error .emptyList ∧
      s.remove "4" = .error (.indexOutOfRange 4 3) ∧
      (∃ t, s.remove "2-9" = .ok (t, 1) ∧ t.names = ["ALL", " Go"]) ∧
      (∃ t, s.remove "02 - 9" = .ok (t, 2) ∧ t.names = ["2-9"]) ∧
      ∃ t, s.remove "GO" = .ok (t, 1) ∧ t.names = ["2-9", "ALL"] := by
  intro s
  have hadd : empty.add "ALL" [" Go", "ALL", "2-9", "go "] = .ok (s, 3) := by decide +kernel
  have hs : s.Reachable := .add .empty hadd
  have hother (address : String) (hwild : Address.isWildcard address = false) :=
    (remove_addressed hs address).2.2 hwild (by decide)
  refine ⟨(remove_addressed hs " all").1 (by decide +kernel),
    (remove_addressed .empty "1").2.1 (by decide +kernel) rfl,
    ((hother "4" (by decide +kernel)).1 _).2 (by decide +kernel), ?_, ?_, ?_⟩
  · obtain ⟨t, hremove, hnames, -⟩ :=
      (hother "2-9" (by decide +kernel)).2 (.name 0) (by decide +kernel)
    exact ⟨t, hremove, hnames⟩
  · obtain ⟨t, hremove, hnames, -⟩ :=
      (hother "02 - 9" (by decide +kernel)).2 (.range 2 3) (by decide +kernel)
    exact ⟨t, hremove, hnames⟩
  · obtain ⟨t, hremove, hnames, -⟩ :=
      (hother "GO" (by decide +kernel)).2 (.name 2) (by decide +kernel)
    exact ⟨t, hremove, hnames⟩

end Selection

end GameShelf
