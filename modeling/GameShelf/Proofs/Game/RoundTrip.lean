import GameShelf.Game.Writing
import GameShelf.Proofs.Game.Reading
import GameShelf.Proofs.Json.Number
import GameShelf.Proofs.Json.Quoted

/-!
# Writing a game and reading it back

The text of a game is an object with one member for each column, in the order of the record. The
value of a member denotes what the game holds in its column, except that `null` stands for a number
that is not finite. So a game is read back, bit by bit, from its text when both of its numbers of
double precision are finite, and otherwise the `null` is the error that is reported.
-/

namespace GameShelf

open Json

/-! ## The text of a game -/

/-- Whether a field has a JSON text of its own. -/
def Json.Found.isFinite : Found → Bool
  | .float x => x.isFinite
  | _ => true

/-- Whether a token is what a field is written as: what denotes it, or `null`. -/
def Json.Token.Writes (t : Token) (found : Found) : Prop :=
  if found.isFinite then t.Denotes found else t = .null

theorem denotes_of_writes {t : Token} {found : Found} (h : t.Writes found)
    (hfinite : found.isFinite = true) : t.Denotes found := by
  rwa [Token.Writes, if_pos hfinite] at h

theorem eq_null_of_writes {t : Token} {x : Binary64} (h : t.Writes (.float x))
    (hinfinite : x.isFinite ≠ true) : t = .null := by
  rwa [Token.Writes, Found.isFinite, if_neg hinfinite] at h

theorem isScalar_of_writes {t : Token} {found : Found} (h : t.Writes found) :
    t.isScalar = true := by
  unfold Token.Writes at h
  split at h
  · exact isScalar_of_denotes h
  · rw [h]
    rfl

theorem exists_spelled_stringText (s : String) :
    ∃ t : Token, t.Spelled (stringText s.toList) ∧ t.Writes (.string s) :=
  ⟨_, spelled_stringText s.toList, text?_map_writtenPiece s.toList⟩

theorem exists_spelled_integerText (k : Int) :
    ∃ t : Token, t.Spelled (integerText k) ∧ t.Writes (.integer k) :=
  ⟨_, spelled_integerText k, isInteger_integerNumber k⟩

theorem exists_spelled_numberText (x : Binary64) :
    ∃ t : Token, t.Spelled (numberText x) ∧ t.Writes (.float x) := by
  unfold numberText
  split
  · next hfinite =>
    obtain ⟨n, hfloat, hspelled⟩ := exists_spelled_floatText hfinite
    exact ⟨.number n, hspelled, (if_pos hfinite).mpr hfloat⟩
  · next hinfinite => exact ⟨.null, .null, (if_neg hinfinite).mpr rfl⟩

theorem exists_spelled_fieldText (g : Game) (column : Column) :
    ∃ t : Token, t.Spelled (g.fieldText column) ∧ t.Writes (g.entry column) := by
  cases column with
  | name => exact exists_spelled_stringText g.name
  | difficulty => exact exists_spelled_numberText g.difficulty
  | rating => exact exists_spelled_numberText g.rating
  | _ => exact exists_spelled_integerText _

theorem spelled_member (column : Column) {t : Token} {text : List Char} (h : t.Spelled text) :
    Spelled (column.toMember t).tokens (stringText column.member.toList ++ ':' :: text) := by
  have hkey : column.member.toList.map writtenPiece = column.member.toList.map .char := by
    cases column <;> decide +kernel
  have hstring := spelled_stringText column.member.toList
  rw [hkey] at hstring
  exact (spelled_singleton hstring).append
    ((spelled_singleton .colon).append (spelled_singleton h))

/-- The text of a game spells an object with its members in the order of the record. -/
theorem spelled_toJson {g : Game} {value : Column → Token}
    (h : ∀ column, (value column).Spelled (g.fieldText column)) :
    Spelled (objectTokens (Column.all.map fun column ↦ column.toMember (value column)))
      g.toJson.toList := by
  have hmembers := spelled_intercalate (fun column ↦ spelled_member column (h column)) Column.all
  rw [Game.toJson, String.toList_ofList, objectTokens, List.map_map]
  exact ((spelled_singleton .beginObject).append hmembers).append (spelled_singleton .endObject)

/-! ## Reading it back -/

theorem foldlM_take_map_toMember {g : Game} {value : Column → Token} {columns : List Column}
    (hdenotes : ∀ column ∈ columns, (value column).Denotes (g.entry column))
    (hnodup : columns.Nodup) :
    (columns.map fun column ↦ column.toMember (value column)).foldlM Draft.take Draft.empty =
      .ok (Draft.part g columns.reverse) := by
  have htext : ∀ column ∈ columns,
      (text? (column.toMember (value column)).key).isSome = true := by
    intro column _
    rw [Column.toMember, text?_map_char]
    rfl
  have hvalue : ∀ column ∈ columns, ∀ other,
      (column.toMember (value column)).column? = some other →
      ∃ t, (column.toMember (value column)).value = [t] ∧ t.Denotes (g.entry other) := by
    intro column hmem other hother
    rw [column?_toMember] at hother
    exact ⟨_, rfl, Option.some.inj hother ▸ hdenotes column hmem⟩
  have htake := Draft.foldlM_take_part [] (List.forall_mem_map.2 htext)
    (List.forall_mem_map.2 hvalue) (by rwa [filterMap_column?_map_toMember])
    fun column _ ↦ List.not_mem_nil
  rwa [filterMap_column?_map_toMember, List.append_nil] at htake

/-- Where a number of double precision is expected, `null` is the first problem if everything in
front of it is as it should be. -/
theorem foldlM_take_null (g : Game) {value : Column → Token} (front : List Column)
    {column : Column} (hdenotes : ∀ c ∈ front, (value c).Denotes (g.entry c))
    (hnodup : (column :: front).Nodup) (hfloat : column.expected = .float)
    (hnull : value column = .null) (back : List Column) :
    ((front ++ column :: back).map fun c ↦ c.toMember (value c)).foldlM Draft.take Draft.empty =
      .error (.wrongType .null .float) := by
  obtain ⟨hnew, hnodup⟩ := List.nodup_cons.1 hnodup
  have hset (d : Draft) : d.set column .null = .error (.wrongType .null .float) := by
    cases column <;> first | rfl | cases hfloat
  have htake : (Draft.part g front.reverse).take (column.toMember (value column)) =
      .error (.wrongType .null .float) := by
    rw [Draft.take_of_column? (column?_toMember _ _), Draft.has_part, if_neg (by simpa using hnew),
      hnull]
    exact hset _
  rw [List.map_append, List.foldlM_append, foldlM_take_map_toMember hdenotes hnodup, List.map_cons]
  change (List.foldlM Draft.take (Draft.part g front.reverse) (_ :: _)) = _
  rw [List.foldlM_cons, htake]
  rfl

/-- A game with a number that is not finite has `null` where its first such number stands. -/
theorem foldlM_take_writes {g : Game} {value : Column → Token}
    (h : ∀ column, (value column).Writes (g.entry column))
    (hinfinite : ¬(g.difficulty.isFinite = true ∧ g.rating.isFinite = true)) :
    (Column.all.map fun column ↦ column.toMember (value column)).foldlM Draft.take Draft.empty =
      .error (.wrongType .null .float) := by
  have hfinite (column : Column) (hcolumn : column ≠ .difficulty ∧ column ≠ .rating) :
      (value column).Denotes (g.entry column) := by
    refine denotes_of_writes (h column) ?_
    cases column <;> simp_all [Game.entry, Found.isFinite]
  let front : List Column := [.name, .id, .minPlayers, .maxPlayers, .minTime, .maxTime]
  have hfront : ∀ column ∈ front, (value column).Denotes (g.entry column) := by
    have hne : ∀ column ∈ front, column ≠ .difficulty ∧ column ≠ .rating := by decide
    exact fun column hmem ↦ hfinite column (hne column hmem)
  -- The difficulty stands in front of the rating, so the rating matters only behind a finite one.
  by_cases hdifficulty : g.difficulty.isFinite = true
  · have hnull := eq_null_of_writes (h .rating) fun hrating ↦ hinfinite ⟨hdifficulty, hrating⟩
    refine foldlM_take_null g (front ++ [.difficulty, .rank]) ?_ (by decide) rfl hnull [.year]
    refine List.forall_mem_append.2 ⟨hfront, List.forall_mem_cons.2 ⟨?_, ?_⟩⟩
    · exact denotes_of_writes (h .difficulty) hdifficulty
    · exact List.forall_mem_singleton.2 (hfinite .rank (by decide))
  · have hnull := eq_null_of_writes (h .difficulty) hdifficulty
    exact foldlM_take_null g front hfront (by decide) rfl hnull [.rank, .rating, .year]

/-- The text of every game is an object in which each field is written, a number that is not finite
as `null`. The game is read back from it when both of its numbers of double precision are finite;
otherwise the `null` is the error. -/
theorem ofJson_toJson (g : Game) :
    (∃ value : Column → Token, (∀ column, (value column).Writes (g.entry column)) ∧
      Spelled (objectTokens (Column.all.map fun column ↦ column.toMember (value column)))
        g.toJson.toList) ∧
    Game.ofJson g.toJson =
      if g.difficulty.isFinite ∧ g.rating.isFinite then .ok g
      else .error (.wrongType .null .float) := by
  let value (column : Column) : Token := (exists_spelled_fieldText g column).choose
  have hvalue (column : Column) : (value column).Spelled (g.fieldText column) ∧
      (value column).Writes (g.entry column) := (exists_spelled_fieldText g column).choose_spec
  have hwrites (column : Column) := (hvalue column).2
  have hspelled := spelled_toJson fun column ↦ (hvalue column).1
  have hobject := isObjectOf_map_toMember (fun column ↦ isScalar_of_writes (hwrites column))
    (List.Perm.refl Column.all)
  refine ⟨⟨value, hwrites, hspelled⟩, ?_⟩
  split
  · next hfinite =>
    have hdenotes (column : Column) : (value column).Denotes (g.entry column) := by
      refine denotes_of_writes (hwrites column) ?_
      cases column <;> first | rfl | exact hfinite.1 | exact hfinite.2
    exact ofJson_of_isObjectOf hdenotes hobject hspelled
  · next hinfinite =>
    rw [ofJson_object hobject.isValue hspelled, foldlM_take_writes hwrites hinfinite]
    rfl

end GameShelf
