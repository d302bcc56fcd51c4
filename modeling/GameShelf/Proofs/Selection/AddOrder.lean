import GameShelf.Proofs.Selection.Union

/-!
# The order of additions

Two additions made in either order fail for the same causes, list the same keys and add equally many
names in all, although each of them may add more names when it is made first. Only the spellings
can differ: under a key that was not listed before, the addition that is made first decides.
-/

namespace GameShelf.Selection

/-- The selection after an addition, and how many names are new. An addition that fails changes
nothing. -/
def tryAdd (s : Selection) (address : String) (candidates : List String) : Selection × Nat :=
  match s.add address candidates with
  | .ok result => result
  | .error _ => (s, 0)

variable {address : String} {candidates : List String}

/-- An addition to one selection and to another differ only in what the picked names are added
to. -/
theorem add_eq_map (s t : Selection) (address : String) (candidates : List String) :
    s.add address candidates =
      (t.add address candidates).map fun _ ↦ s.insertAll (picked address candidates) := by
  rw [add, add]
  unfold picked
  split
  · rfl
  · cases Address.resolve address candidates with
    | error e => rfl
    | ok a => rfl

/-- Whether an addition fails, and how, does not depend on what is listed. -/
theorem add_eq_error_iff (s t : Selection) {e : SelectionError} :
    s.add address candidates = .error e ↔ t.add address candidates = .error e := by
  rw [add_eq_map s t]
  cases t.add address candidates with
  | error cause => exact Iff.rfl
  | ok result => exact iff_of_false nofun nofun

theorem tryAdd_eq_insertAll (s : Selection) (address : String) (candidates : List String) :
    s.tryAdd address candidates = s.insertAll (picked address candidates) := by
  rw [tryAdd]
  cases hadd : s.add address candidates with
  | error e =>
    rw [picked_eq_nil_of_add hadd]
    rfl
  | ok result =>
    have hmap := add_eq_map s s address candidates
    rw [hadd] at hmap
    exact Except.ok.inj hmap

/-! ## Names in two orders -/

/-- Under a key that is not listed, the first of the names `xs` and the first of the names `ys` are
spelled differently. -/
def Conflict (s : Selection) (xs ys : List String) : Prop :=
  ∃ key x y, s.containsKey key = false ∧
    (xs.find? fun name ↦ NameKey.ofName name = key) = some x ∧
    (ys.find? fun name ↦ NameKey.ofName name = key) = some y ∧ x ≠ y

variable {s : Selection}

theorem spelling?_insertAll_insertAll (h : s.WellFormed) (xs ys : List String) (key : NameKey) :
    ((s.insertAll xs).1.insertAll ys).1.spelling? key =
      ((s.spelling? key).or (xs.find? fun name ↦ NameKey.ofName name = key)).or
        (ys.find? fun name ↦ NameKey.ofName name = key) := by
  rw [spelling?_insertAll (h.insertAll xs), spelling?_insertAll h]

/-- In either order the same keys are listed. -/
theorem containsKey_insertAll_comm (h : s.WellFormed) (xs ys : List String) (key : NameKey) :
    ((s.insertAll xs).1.insertAll ys).1.containsKey key =
      ((s.insertAll ys).1.insertAll xs).1.containsKey key := by
  rw [containsKey_eq_isSome, containsKey_eq_isSome, spelling?_insertAll_insertAll h,
    spelling?_insertAll_insertAll h, Option.isSome_or, Option.isSome_or, Option.isSome_or,
    Option.isSome_or, Bool.or_right_comm]

theorem count_insertAll_comm (h : s.WellFormed) (xs ys : List String) :
    ((s.insertAll xs).1.insertAll ys).1.count = ((s.insertAll ys).1.insertAll xs).1.count :=
  ((h.insertAll xs).insertAll ys).count_eq ((h.insertAll ys).insertAll xs)
    (containsKey_insertAll_comm h xs ys)

/-- In either order equally many names are new. -/
theorem added_insertAll_comm (h : s.WellFormed) (xs ys : List String) :
    (s.insertAll xs).2 + ((s.insertAll xs).1.insertAll ys).2 =
      (s.insertAll ys).2 + ((s.insertAll ys).1.insertAll xs).2 := by
  apply Nat.add_left_cancel (n := s.count)
  calc
    s.count + ((s.insertAll xs).2 + ((s.insertAll xs).1.insertAll ys).2) =
        ((s.insertAll xs).1.insertAll ys).1.count := by
      rw [count_insertAll (h.insertAll xs), count_insertAll h, Nat.add_assoc]
    _ = ((s.insertAll ys).1.insertAll xs).1.count := count_insertAll_comm h xs ys
    _ = s.count + ((s.insertAll ys).2 + ((s.insertAll ys).1.insertAll xs).2) := by
      rw [count_insertAll (h.insertAll ys), count_insertAll h, Nat.add_assoc]

/-- The order decides a spelling if and only if there is a conflict. -/
theorem insertAll_comm_iff (h : s.WellFormed) (xs ys : List String) :
    ((s.insertAll xs).1.insertAll ys).1 = ((s.insertAll ys).1.insertAll xs).1 ↔
      ¬ s.Conflict xs ys := by
  constructor
  · rintro heq ⟨key, x, y, hkey, hx, hy, hne⟩
    have hnone : s.spelling? key = none := by
      rwa [containsKey_eq_isSome, Option.isSome_eq_false_iff, Option.isNone_iff_eq_none] at hkey
    have hspelling := congrArg (fun t ↦ t.spelling? key) heq
    rw [spelling?_insertAll_insertAll h, spelling?_insertAll_insertAll h, hnone, hx, hy] at hspelling
    exact hne (Option.some.inj hspelling)
  · intro hconflict
    apply ((h.insertAll xs).insertAll ys).ext ((h.insertAll ys).insertAll xs)
    intro key
    rw [spelling?_insertAll_insertAll h, spelling?_insertAll_insertAll h]
    -- A spelling that is listed stays; without one, only two different first names can disagree.
    cases hlisted : s.spelling? key with
    | some listed => rfl
    | none =>
      rw [Option.none_or, Option.none_or]
      cases hx : xs.find? fun name ↦ NameKey.ofName name = key with
      | none => exact Option.or_none.symm
      | some x =>
        cases hy : ys.find? fun name ↦ NameKey.ofName name = key with
        | none => rfl
        | some y =>
          have hkey : s.containsKey key = false := by
            rw [containsKey_eq_isSome, hlisted, Option.isSome_none]
          rw [Option.some_or, Option.some_or]
          by_contra hne
          exact hconflict ⟨key, x, y, hkey, hx, hy, fun heq ↦ hne (congrArg some heq)⟩

/-! ## Additions in two orders -/

/-- The order of two additions decides neither whether and how each of them fails, nor which names
are contained, how many they are and how many are new in all. The results are even equal, unless
under a key that was not listed before the first names that are picked are spelled differently. -/
theorem tryAdd_comm (h : s.Reachable) (address₁ address₂ : String)
    (candidates₁ candidates₂ : List String) :
    let once₁ := s.tryAdd address₁ candidates₁
    let once₂ := s.tryAdd address₂ candidates₂
    let twice₁ := once₁.1.tryAdd address₂ candidates₂
    let twice₂ := once₂.1.tryAdd address₁ candidates₁
    (∀ e, once₂.1.add address₁ candidates₁ = .error e ↔ s.add address₁ candidates₁ = .error e) ∧
      (∀ e, once₁.1.add address₂ candidates₂ = .error e ↔ s.add address₂ candidates₂ = .error e) ∧
      (∀ name, twice₁.1.contains name = twice₂.1.contains name) ∧
      twice₁.1.count = twice₂.1.count ∧
      once₁.2 + twice₁.2 = once₂.2 + twice₂.2 ∧
      (twice₁.1 = twice₂.1 ↔
        ¬ s.Conflict (picked address₁ candidates₁) (picked address₂ candidates₂)) := by
  intro once₁ once₂ twice₁ twice₂
  refine ⟨fun e ↦ add_eq_error_iff _ _, fun e ↦ add_eq_error_iff _ _, ?_⟩
  simp only [twice₁, twice₂, once₁, once₂, tryAdd_eq_insertAll]
  refine ⟨?_, ?_, ?_, ?_⟩
  · intro name
    exact containsKey_insertAll_comm h.wellFormed _ _ _
  · exact count_insertAll_comm h.wellFormed _ _
  · exact added_insertAll_comm h.wellFormed _ _
  · exact insertAll_comm_iff h.wellFormed _ _

/-- Two additions of a game under two spellings, which are counted otherwise in the other order, and
an addition beside one that fails. -/
theorem tryAdd_comm_respelled :
    let s : Selection := ⟨[(.ofName "Chess", "Chess")]⟩
    let several := ["chess", "Go", "Risk"]
    s.Reachable ∧
      ((s.tryAdd "all" several).2 = 2 ∧ ((s.tryAdd "1" ["GO"]).1.tryAdd "all" several).2 = 1) ∧
      ((s.tryAdd "all" several).1.tryAdd "1" ["GO"]).1.count =
        ((s.tryAdd "1" ["GO"]).1.tryAdd "all" several).1.count ∧
      ((s.tryAdd "all" several).1.tryAdd "1" ["GO"]).1 ≠
        ((s.tryAdd "1" ["GO"]).1.tryAdd "all" several).1 ∧
      ((s.tryAdd "2" ["Go"]).1.tryAdd "1" ["GO"]).1 =
        ((s.tryAdd "1" ["GO"]).1.tryAdd "2" ["Go"]).1 := by
  intro s several
  have hadd : empty.add "1" ["Chess"] = .ok (s, 1) := by decide +kernel
  have hs : s.Reachable := .add .empty hadd
  have hconflict : s.Conflict (picked "all" several) (picked "1" ["GO"]) := by
    refine ⟨.ofName "go", "Go", "GO", ?_, ?_, ?_, ?_⟩ <;> decide +kernel
  have hfailed : ¬ s.Conflict (picked "2" ["Go"]) (picked "1" ["GO"]) := by
    rintro ⟨key, x, y, -, hx, -⟩
    have hnone : picked "2" ["Go"] = [] := by decide +kernel
    rw [hnone] at hx
    exact absurd hx (Option.some_ne_none x).symm
  obtain ⟨-, -, -, hcount, -, hequal⟩ := tryAdd_comm hs "all" "1" several ["GO"]
  refine ⟨hs, by decide +kernel, hcount, fun heq ↦ hequal.1 heq hconflict, ?_⟩
  exact (tryAdd_comm hs "2" "1" ["Go"] ["GO"]).2.2.2.2.2.2 hfailed

end GameShelf.Selection
