import GameShelf.Catalog
import GameShelf.Text.Fold
import Mathlib.Data.Set.Card

/-!
# Catalogs as sets of records

A catalog is the set of the records that are given to it. Two games are the same record when they
agree in each of the ten fields, numbers of double precision bit by bit. So every game is the same
record as itself, also where a number is a NaN, while the two zeros make different records, and so
do two spellings of a name in different letter case.

How often and in which order the records are given has no effect on what a catalog contains, on its
size, and on which catalogs it is equal to.
-/

namespace GameShelf

namespace Game

/-! ## Records -/

/-- Two games agree in every field, numbers of double precision bit by bit. -/
structure SameRecord (g h : Game) : Prop where
  name : g.name = h.name
  id : g.id = h.id
  minPlayers : g.minPlayers = h.minPlayers
  maxPlayers : g.maxPlayers = h.maxPlayers
  minPlayTime : g.minPlayTime = h.minPlayTime
  maxPlayTime : g.maxPlayTime = h.maxPlayTime
  difficulty : g.difficulty.bits = h.difficulty.bits
  rank : g.rank = h.rank
  rating : g.rating.bits = h.rating.bits
  yearPublished : g.yearPublished = h.yearPublished

/-- A value as a hash function takes it. -/
inductive HashPart where
  | text (s : String)
  | unsigned (n : UInt32)
  | signed (n : Int32)
  | pattern (bits : UInt64)

/-- What a hash function takes from a game, in this order. -/
def hashParts (g : Game) : List HashPart :=
  [.text g.name, .unsigned g.id, .signed g.minPlayers, .signed g.maxPlayers,
    .signed g.minPlayTime, .signed g.maxPlayTime, .pattern g.difficulty.bits, .signed g.rank,
    .pattern g.rating.bits, .signed g.yearPublished]

variable {g h : Game}

theorem SameRecord.refl (g : Game) : g.SameRecord g :=
  ⟨rfl, rfl, rfl, rfl, rfl, rfl, rfl, rfl, rfl, rfl⟩

/-- No field is left out: games that are the same record are equal. -/
theorem SameRecord.eq (same : g.SameRecord h) : g = h := by
  obtain ⟨_, _, _, _, _, _, ⟨_⟩, _, ⟨_⟩, _⟩ := g
  obtain ⟨_, _, _, _, _, _, ⟨_⟩, _, ⟨_⟩, _⟩ := h
  obtain ⟨rfl, rfl, rfl, rfl, rfl, rfl, rfl, rfl, rfl, rfl⟩ := same
  rfl

theorem sameRecord_iff_eq : g.SameRecord h ↔ g = h :=
  ⟨SameRecord.eq, fun heq ↦ heq ▸ .refl g⟩

theorem sameRecord_equivalence : Equivalence SameRecord where
  refl := .refl
  symm same := sameRecord_iff_eq.2 same.eq.symm
  trans same next := sameRecord_iff_eq.2 (same.eq.trans next.eq)

/-- A hash function takes the same from two games just when they are the same record. -/
theorem hashParts_eq_iff : g.hashParts = h.hashParts ↔ g.SameRecord h := by
  constructor
  · intro heq
    simp only [hashParts, List.cons.injEq, HashPart.text.injEq, HashPart.unsigned.injEq,
      HashPart.signed.injEq, HashPart.pattern.injEq, and_true] at heq
    obtain ⟨name, id, minPlayers, maxPlayers, minPlayTime, maxPlayTime, difficulty, rank, rating,
      yearPublished⟩ := heq
    exact ⟨name, id, minPlayers, maxPlayers, minPlayTime, maxPlayTime, difficulty, rank, rating,
      yearPublished⟩
  · intro same
    rw [same.eq]

end Game

namespace Catalog

def records (games : List Game) : Set Game :=
  {g | ∃ h ∈ games, h.SameRecord g}

variable {xs ys : List Game} {g h : Game}

theorem mem_records : g ∈ records xs ↔ g ∈ xs := by
  constructor
  · rintro ⟨h, hmem, same⟩
    exact same.eq ▸ hmem
  · intro hmem
    exact ⟨g, hmem, .refl g⟩

/-- A game that is given again brings no new record. -/
theorem records_cons_of_mem (hg : g ∈ xs) : records (g :: xs) = records xs := by
  ext h
  rw [mem_records, mem_records, List.mem_cons]
  exact ⟨fun hmem ↦ hmem.elim (· ▸ hg) id, .inr⟩

/-! ## Members and size -/

theorem mem_games_ofList : g ∈ (ofList xs).games ↔ g ∈ records xs :=
  mem_distinctGames.trans mem_records.symm

theorem contains_ofList_iff : (ofList xs).contains g = true ↔ g ∈ records xs :=
  List.contains_iff_mem.trans mem_games_ofList

/-- Each record counts once. -/
theorem size_ofList (xs : List Game) : (ofList xs).size = (records xs).ncard := by
  have hrecords : records xs = ↑(ofList xs).games.toFinset := by
    ext g
    rw [Finset.mem_coe, List.mem_toFinset, mem_games_ofList]
  rw [hrecords, Set.ncard_coe_finset, List.toFinset_card_of_nodup (ofList xs).nodup, size]

theorem isEmpty_ofList : (ofList xs).isEmpty = true ↔ xs = [] := by
  rw [isEmpty, List.isEmpty_iff]
  cases xs with
  | nil => exact ⟨fun _ ↦ rfl, fun _ ↦ rfl⟩
  | cons g xs => exact ⟨fun hnil ↦ (List.cons_ne_nil _ _ hnil).elim, nofun⟩

/-! ## Equal catalogs -/

/-- Catalogs are equal just when they hold the same games: since none is held twice, one side and the
sizes are enough to compare. -/
theorem sameSet_iff {c d : Catalog} :
    c.sameSet d = true ↔ ∀ g, g ∈ c.games ↔ g ∈ d.games := by
  rw [sameSet, Bool.and_eq_true, beq_iff_eq, List.all_eq_true]
  constructor
  · rintro ⟨hsize, hall⟩
    have hsubset : c.games ⊆ d.games := fun g hg ↦ List.contains_iff_mem.1 (hall g hg)
    have hperm : c.games.Perm d.games :=
      (List.subperm_of_subset c.nodup hsubset).perm_of_length_le hsize.ge
    exact fun g ↦ hperm.mem_iff
  · intro hmem
    have hperm : c.games.Perm d.games := (List.perm_ext_iff_of_nodup c.nodup d.nodup).2 hmem
    exact ⟨hperm.length_eq, fun g hg ↦ List.contains_iff_mem.2 ((hmem g).1 hg)⟩

theorem sameSet_ofList_iff :
    (ofList xs).sameSet (ofList ys) = true ↔ records xs = records ys := by
  rw [sameSet_iff, Set.ext_iff]
  simp only [mem_games_ofList]

/-! ## Two games -/

/-- A catalog of two games counts both, and a catalog of one does not contain the other. -/
structure KeptApart (g h : Game) : Prop where
  size_pair : (ofList [g, h]).size = 2
  not_contains : (ofList [g]).contains h = false

theorem keptApart_of_not_sameRecord (hdiffer : ¬ g.SameRecord h) : KeptApart g h := by
  have hne : h ≠ g := fun heq ↦ hdiffer (heq ▸ .refl h)
  constructor
  · simp [size, ofList, distinctGames, hne]
  · rw [contains_ofList]
    simp [hne]

/-- The catalog of a list is the set of its records. To be the same record is an equivalence, with
which hash functions agree. The catalog contains exactly the records of the list and is as large as
there are such records; it is empty only for the empty list; and two catalogs are equal just when
their lists have the same records, in whatever order and however often. So every game of the list,
NaNs or not, is found and counts once, and records are kept apart that differ in the sign of a zero
alone or in the name alone, be it only in letter case. -/
theorem ofList_is_set_of_records (xs ys : List Game) :
    Equivalence Game.SameRecord ∧
      (∀ g h : Game, g.hashParts = h.hashParts ↔ g.SameRecord h) ∧
      (∀ g, (ofList xs).contains g = true ↔ g ∈ records xs) ∧
      (ofList xs).size = (records xs).ncard ∧
      ((ofList xs).isEmpty = true ↔ xs = []) ∧
      ((ofList xs).sameSet (ofList ys) = true ↔ records xs = records ys) ∧
      (∀ g ∈ xs, (ofList xs).contains g = true ∧ (ofList (g :: xs)).size = (ofList xs).size) ∧
      (∀ g : Game, KeptApart { g with rating := .zero } { g with rating := .ofPattern true 0 }) ∧
      (∀ g : Game,
        KeptApart { g with difficulty := .zero } { g with difficulty := .ofPattern true 0 }) ∧
      ∀ (g : Game) (name : String), name ≠ g.name → KeptApart g { g with name := name } := by
  have hzeros : Binary64.zero.bits ≠ (Binary64.ofPattern true 0).bits := by decide
  refine ⟨Game.sameRecord_equivalence, fun g h ↦ Game.hashParts_eq_iff,
    fun g ↦ contains_ofList_iff, size_ofList xs, isEmpty_ofList, sameSet_ofList_iff,
    ?_, ?_, ?_, ?_⟩
  · intro g hg
    refine ⟨contains_ofList_iff.2 (mem_records.2 hg), ?_⟩
    rw [size_ofList, size_ofList, records_cons_of_mem hg]
  · exact fun g ↦ keptApart_of_not_sameRecord fun same ↦ hzeros same.rating
  · exact fun g ↦ keptApart_of_not_sameRecord fun same ↦ hzeros same.difficulty
  · exact fun g name hname ↦ keptApart_of_not_sameRecord fun same ↦ hname same.name.symm

/-- A game whose rating is a NaN is given twice, next to games that differ from it in the payload of
the NaN and in the letter case of the name. -/
theorem ofList_is_set_of_records_not_a_number :
    let go : Game := { Game.named "Go" with rating := ⟨0x7FF8000000000000⟩ }
    let payload : Game := { go with rating := ⟨0x7FF8000000000001⟩ }
    let shouted : Game := { go with name := "GO" }
    let xs := [go, shouted, go, payload]
    let ys := [payload, payload, go, shouted]
    go.rating.isNaN = true ∧ go ∈ xs ∧ "GO" ≠ go.name ∧ Text.equalFold "GO" go.name = true ∧
      (ofList xs).contains go = true ∧ (ofList (go :: xs)).size = (ofList xs).size ∧
      (records xs).ncard = 3 ∧ records xs = records ys ∧ KeptApart go shouted := by
  intro go payload shouted xs ys
  have hgo : go ∈ xs := List.mem_cons_self
  have hname : "GO" ≠ go.name := by decide
  obtain ⟨-, -, -, hsize, -, hsame, hmember, -, -, hnames⟩ := ofList_is_set_of_records xs ys
  obtain ⟨hfound, hagain⟩ := hmember go hgo
  refine ⟨by decide, hgo, hname, by decide, hfound, hagain, ?_, ?_, hnames go "GO" hname⟩
  · exact hsize.symm.trans (by decide)
  · exact hsame.1 (by decide)

end Catalog

end GameShelf
