import GameShelf.Game.Reading
import GameShelf.Proofs.Json.Found
import GameShelf.Proofs.Json.Grammar

/-!
# Filling a draft

A token may denote what a game holds in a column. Reading such a token adds the field of the game to
a draft that is a part of the game, so the draft with every field of the game is the game. Whatever
is read for a column, no other column gets a field from it, and a draft with a column missing is no
game.
-/

namespace GameShelf

open Json

/-! ## What a token denotes -/

/-- Whether a token denotes a text, an integer or a number of double precision. -/
def Json.Token.Denotes : Token → Found → Prop
  | .string pieces, .string s => text? pieces = some s.toList
  | .number n, .integer k => n.IsInteger k
  | .number n, .float x => n.IsFloat x
  | _, _ => False

theorem isScalar_of_denotes {t : Token} {found : Found} (h : t.Denotes found) :
    t.isScalar = true := by
  cases t <;> first | rfl | cases h

theorem found?_of_denotes_string {t : Token} {s : String} (h : t.Denotes (.string s)) :
    t.found? = some (.string s) := by
  cases t with
  | string pieces =>
    have htext : text? pieces = some s.toList := h
    rw [Token.found?, htext, Option.map_some, String.ofList_toList]
  | _ => cases h

theorem found?_of_denotes_integer {t : Token} {k : Int} (h : t.Denotes (.integer k))
    (hfits : fitsInteger k = true) : t.found? = some (.integer k) := by
  cases t with
  | number n => exact found?_of_isInteger h hfits
  | _ => cases h

theorem toUnsigned_toNat (v : UInt32) : (Found.integer v.toNat).toUnsigned = .ok v := by
  have hlt := v.toNat_lt
  rw [Found.toUnsigned, if_pos ⟨by omega, by simp [UInt32.size]; omega⟩]
  simp

theorem toSigned_toInt (v : Int32) : (Found.integer v.toInt).toSigned = .ok v := by
  rw [Found.toSigned, if_pos ⟨v.minValue_le_toInt, v.toInt_le⟩, Int32.ofInt_toInt]

theorem toUnsigned_of_denotes {t : Token} {v : UInt32} (h : t.Denotes (.integer v.toNat)) :
    ∃ found, t.found? = some found ∧ found.toUnsigned = .ok v := by
  have hlt := v.toNat_lt
  have hfits : fitsInteger v.toNat = true := by
    simp [fitsInteger, UInt64.size]
    omega
  exact ⟨_, found?_of_denotes_integer h hfits, toUnsigned_toNat v⟩

theorem toSigned_of_denotes {t : Token} {v : Int32} (h : t.Denotes (.integer v.toInt)) :
    ∃ found, t.found? = some found ∧ found.toSigned = .ok v := by
  have hle := v.le_toInt
  have hlt := v.toInt_lt
  have hmin : Int64.minValue.toInt = -9223372036854775808 := by decide
  have hfits : fitsInteger v.toInt = true := by
    simp only [fitsInteger, hmin, UInt64.size, Bool.and_eq_true, decide_eq_true_eq]
    omega
  exact ⟨_, found?_of_denotes_integer h hfits, toSigned_toInt v⟩

theorem toFloat_of_denotes {t : Token} {x : Binary64} (h : t.Denotes (.float x)) :
    ∃ found, t.found? = some found ∧ found.toFloat = .ok x := by
  cases t with
  | number n =>
    rcases found?_of_isFloat h with ⟨k, hk, rfl⟩ | hfloat
    · exact ⟨_, hk, rfl⟩
    · exact ⟨_, hfloat, rfl⟩
  | _ => cases h

/-! ## Columns -/

def Game.entry (g : Game) : Column → Found
  | .name => .string g.name
  | .id => .integer g.id.toNat
  | .minPlayers => .integer g.minPlayers.toInt
  | .maxPlayers => .integer g.maxPlayers.toInt
  | .minTime => .integer g.minPlayTime.toInt
  | .maxTime => .integer g.maxPlayTime.toInt
  | .difficulty => .float g.difficulty
  | .rank => .integer g.rank.toInt
  | .rating => .float g.rating
  | .year => .integer g.yearPublished.toInt

def Column.expected : Column → Expectation
  | .name => .string
  | .id => .unsigned
  | .difficulty | .rating => .float
  | _ => .signed

/-- Whether a token is acceptable where something is expected: a string of characters, an integer of
32 bits without or with a sign, or a number within double precision. -/
def Expectation.Accepts : Expectation → Token → Prop
  | .string, .string pieces => ∃ cs, text? pieces = some cs
  | .unsigned, .number n => ∃ k, n.IsInteger k ∧ 0 ≤ k ∧ k < 4294967296
  | .signed, .number n => ∃ k, n.IsInteger k ∧ -2147483648 ≤ k ∧ k < 2147483648
  | .float, .number n => n.toDecimal.toBinary64.isFinite = true
  | _, _ => False

theorem exists_denotes_string {t : Token} (h : Expectation.string.Accepts t) :
    ∃ s, t.Denotes (.string s) := by
  cases t with
  | string pieces =>
    obtain ⟨cs, hcs⟩ := h
    exact ⟨String.ofList cs, by rw [Token.Denotes, hcs, String.toList_ofList]⟩
  | _ => cases h

theorem exists_denotes_unsigned {t : Token} (h : Expectation.unsigned.Accepts t) :
    ∃ v : UInt32, t.Denotes (.integer v.toNat) := by
  cases t with
  | number n =>
    obtain ⟨k, hk, hle, hlt⟩ := h
    refine ⟨UInt32.ofNat k.toNat, ?_⟩
    have hv : ((UInt32.ofNat k.toNat).toNat : Int) = k := by
      rw [UInt32.toNat_ofNat']
      omega
    rwa [Token.Denotes, hv]
  | _ => cases h

theorem exists_denotes_signed {t : Token} (h : Expectation.signed.Accepts t) :
    ∃ v : Int32, t.Denotes (.integer v.toInt) := by
  cases t with
  | number n =>
    obtain ⟨k, hk, hle, hlt⟩ := h
    refine ⟨Int32.ofInt k, ?_⟩
    have hv : (Int32.ofInt k).toInt = k := Int32.toInt_ofInt_of_le hle hlt
    rwa [Token.Denotes, hv]
  | _ => cases h

theorem exists_denotes_float {t : Token} (h : Expectation.float.Accepts t) :
    ∃ x, t.Denotes (.float x) := by
  cases t with
  | number n => exact ⟨_, rfl, h⟩
  | _ => cases h

/-- Acceptable tokens for all columns denote a game. -/
theorem exists_entry_of_accepts {value : Column → Token}
    (h : ∀ column : Column, column.expected.Accepts (value column)) :
    ∃ g : Game, ∀ column, (value column).Denotes (g.entry column) := by
  obtain ⟨name, hname⟩ := exists_denotes_string (h .name)
  obtain ⟨id, hid⟩ := exists_denotes_unsigned (h .id)
  obtain ⟨minPlayers, hminPlayers⟩ := exists_denotes_signed (h .minPlayers)
  obtain ⟨maxPlayers, hmaxPlayers⟩ := exists_denotes_signed (h .maxPlayers)
  obtain ⟨minPlayTime, hminPlayTime⟩ := exists_denotes_signed (h .minTime)
  obtain ⟨maxPlayTime, hmaxPlayTime⟩ := exists_denotes_signed (h .maxTime)
  obtain ⟨difficulty, hdifficulty⟩ := exists_denotes_float (h .difficulty)
  obtain ⟨rank, hrank⟩ := exists_denotes_signed (h .rank)
  obtain ⟨rating, hrating⟩ := exists_denotes_float (h .rating)
  obtain ⟨yearPublished, hyearPublished⟩ := exists_denotes_signed (h .year)
  refine ⟨⟨name, id, minPlayers, maxPlayers, minPlayTime, maxPlayTime, difficulty, rank, rating,
    yearPublished⟩, fun column ↦ ?_⟩
  cases column <;> assumption

namespace Draft

/-! ## Parts of a game -/

/-- A field, if its column is among some columns. -/
def keep? {α : Type} (columns : List Column) (column : Column) (v : α) : Option α :=
  if column ∈ columns then some v else none

theorem isSome_keep? {α : Type} (columns : List Column) (column : Column) (v : α) :
    (keep? columns column v).isSome = decide (column ∈ columns) := by
  unfold keep?
  split <;> simp_all

theorem keep?_of_mem {α : Type} {columns : List Column} {column : Column} (h : column ∈ columns)
    (v : α) : keep? columns column v = some v :=
  if_pos h

/-- The draft with the fields of a game in some of the columns. -/
def part (g : Game) (columns : List Column) : Draft where
  name := keep? columns .name g.name
  id := keep? columns .id g.id
  minPlayers := keep? columns .minPlayers g.minPlayers
  maxPlayers := keep? columns .maxPlayers g.maxPlayers
  minPlayTime := keep? columns .minTime g.minPlayTime
  maxPlayTime := keep? columns .maxTime g.maxPlayTime
  difficulty := keep? columns .difficulty g.difficulty
  rank := keep? columns .rank g.rank
  rating := keep? columns .rating g.rating
  yearPublished := keep? columns .year g.yearPublished

theorem part_nil (g : Game) : part g [] = empty := rfl

theorem has_part (g : Game) (columns : List Column) (column : Column) :
    (part g columns).has column = decide (column ∈ columns) := by
  cases column <;> exact isSome_keep? _ _ _

/-- Reading what a token denotes adds the field. -/
theorem set_part {g : Game} {column : Column} {t : Token} (h : t.Denotes (g.entry column)) :
    ∃ found, t.found? = some found ∧
      ∀ columns, (part g columns).set column found = .ok (part g (column :: columns)) := by
  cases column with
  | name =>
    refine ⟨_, found?_of_denotes_string h, fun columns ↦ ?_⟩
    simp [set, Found.toText, Except.map, part, keep?]
  | id =>
    obtain ⟨found, hfound, hv⟩ := toUnsigned_of_denotes h
    refine ⟨found, hfound, fun columns ↦ ?_⟩
    simp [set, hv, Except.map, part, keep?]
  | difficulty | rating =>
    obtain ⟨found, hfound, hv⟩ := toFloat_of_denotes h
    refine ⟨found, hfound, fun columns ↦ ?_⟩
    simp [set, hv, Except.map, part, keep?]
  | _ =>
    obtain ⟨found, hfound, hv⟩ := toSigned_of_denotes h
    refine ⟨found, hfound, fun columns ↦ ?_⟩
    simp [set, hv, Except.map, part, keep?]

/-- The draft with every field of a game is the game. -/
theorem toGame_part {g : Game} {columns : List Column} (h : ∀ column, column ∈ columns) :
    (part g columns).toGame = .ok g := by
  simp only [part, keep?_of_mem (h _)]
  rfl

/-! ## What is missing -/

theorem map_eq_ok_iff {ε α β : Type} {f : α → β} {x : Except ε α} {b : β} :
    x.map f = .ok b ↔ ∃ a, x = .ok a ∧ f a = b := by
  cases x <;> simp [Except.map]

/-- What is read for a column is a field of this column and of no other. -/
theorem has_set {d d' : Draft} {column : Column} {found : Found}
    (h : d.set column found = .ok d') (other : Column) :
    d'.has other = (d.has other || other == column) := by
  cases column <;>
    obtain ⟨v, -, rfl⟩ := map_eq_ok_iff.1 h <;>
    cases other <;> simp [has]

theorem need_bind_eq_ok_iff {α β : Type} {column : Column} {field : Option α}
    {f : α → Except DecodeError β} {b : β} :
    (need column field >>= f) = .ok b ↔ ∃ a, field = some a ∧ f a = .ok b := by
  cases field <;> simp [need, bind, Except.bind]

/-- A draft that is a game has every field. -/
theorem has_of_toGame {d : Draft} {g : Game} (h : d.toGame = .ok g) (column : Column) :
    d.has column = true := by
  simp only [toGame, need_bind_eq_ok_iff] at h
  obtain ⟨_, hname, _, hid, _, hminPlayers, _, hmaxPlayers, _, hminTime, _, hmaxTime, _,
    hdifficulty, _, hrank, _, hrating, _, hyear, -⟩ := h
  cases column <;> simp [has, *]

end Draft

end GameShelf
