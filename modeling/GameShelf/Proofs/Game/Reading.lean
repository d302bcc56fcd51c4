import GameShelf.Proofs.Game.Members
import GameShelf.Proofs.Json.Lexer
import GameShelf.Proofs.Json.Number

/-!
# Which texts are read as a game

The text of an object is read by taking its members. So the members of a game may stand in any
order, among any others and with any blanks, and the game is the one that the array of the same
values is read as. Every column has to have exactly one member.
-/

namespace GameShelf

open Json

/-! ## Texts -/

/-- A text of an object is read by taking the members. -/
theorem ofJson_object {members : List Member} {text : String}
    (hvalue : ∀ m ∈ members, IsValue m.value)
    (hspelled : Spelled (objectTokens members) text.toList) :
    Game.ofJson text = (members.foldlM Draft.take Draft.empty).bind Draft.toGame := by
  rw [Game.ofJson, tokens_of_spelled_value (.object hvalue) hspelled,
    Draft.ofTokens_objectTokens hvalue]
  cases members.foldlM Draft.take Draft.empty with
  | error e => rfl
  | ok d =>
    change (d.toGame.bind fun game ↦ .ok game) = d.toGame
    cases d.toGame <;> rfl

def valuesInOrder (value : Column → Token) : List (List Token) :=
  Column.all.map fun column ↦ [value column]

theorem ofJson_array {g : Game} {value : Column → Token} {text : String}
    (h : ∀ column, (value column).Denotes (g.entry column))
    (hspelled : Spelled (arrayTokens (valuesInOrder value)) text.toList) :
    Game.ofJson text = .ok g := by
  have hvalue : ∀ row ∈ valuesInOrder value, IsValue row := by
    intro row hrow
    obtain ⟨column, -, rfl⟩ := List.mem_map.1 hrow
    exact .scalar (isScalar_of_denotes (h column))
  rw [Game.ofJson, tokens_of_spelled_value (.array hvalue) hspelled, valuesInOrder,
    Draft.ofTokens_arrayTokens h]
  change (Draft.toGame _).bind _ = _
  rw [Draft.toGame_part fun column ↦ List.mem_reverse.2 column.mem_all]
  rfl

/-! ## Objects -/

/-- Whether an object has one member for each column, in any order and with given values, and
besides them only members of unknown keys. -/
structure IsObjectOf (value : Column → Token) (members : List Member) : Prop where
  isValue : ∀ m ∈ members, IsValue m.value
  isText : ∀ m ∈ members, (text? m.key).isSome = true
  columns : (members.filterMap Member.column?).Perm Column.all
  value_eq : ∀ m ∈ members, ∀ column, m.column? = some column → m.value = [value column]

def Column.toMember (column : Column) (t : Token) : Member :=
  ⟨column.member.toList.map .char, [t]⟩

theorem text?_map_char (cs : List Char) : text? (cs.map .char) = some cs := by
  induction cs with
  | nil => rfl
  | cons c cs ih => rw [List.map_cons, text?, ih, Option.map_some]

theorem column?_toMember (column : Column) (t : Token) :
    (column.toMember t).column? = some column := by
  have hmember : ∀ column ∈ Column.all, Column.ofMember? column.member = some column := by
    decide +kernel
  rw [Member.column?, Column.toMember, text?_map_char, Option.bind_some, String.ofList_toList]
  exact hmember column column.mem_all

theorem filterMap_column?_map_toMember (value : Column → Token) (columns : List Column) :
    (columns.map fun column ↦ column.toMember (value column)).filterMap Member.column? =
      columns := by
  rw [List.filterMap_map]
  simp only [Function.comp_def, column?_toMember, List.filterMap_some]

/-- The members of all columns may stand in any order. -/
theorem isObjectOf_map_toMember {value : Column → Token}
    (h : ∀ column, (value column).isScalar = true) {columns : List Column}
    (hcolumns : columns.Perm Column.all) :
    IsObjectOf value (columns.map fun column ↦ column.toMember (value column)) where
  isValue := List.forall_mem_map.2 fun column _ ↦ .scalar (h column)
  isText := List.forall_mem_map.2 fun column _ ↦ by
    rw [Column.toMember, text?_map_char]
    rfl
  columns := by
    rwa [filterMap_column?_map_toMember]
  value_eq := List.forall_mem_map.2 fun column _ other hother ↦ by
    rw [column?_toMember] at hother
    rw [← Option.some.inj hother]
    rfl

/-- A member of an unknown key may be put in front of an object. -/
theorem IsObjectOf.cons {value : Column → Token} {members : List Member}
    (h : IsObjectOf value members) {m : Member} (hvalue : IsValue m.value)
    (htext : (text? m.key).isSome = true) (hcolumn : m.column? = none) :
    IsObjectOf value (m :: members) where
  isValue := List.forall_mem_cons.2 ⟨hvalue, h.isValue⟩
  isText := List.forall_mem_cons.2 ⟨htext, h.isText⟩
  columns := by
    rw [List.filterMap_cons_none hcolumn]
    exact h.columns
  value_eq := List.forall_mem_cons.2
    ⟨fun column hother ↦ absurd (hcolumn.symm.trans hother) nofun, h.value_eq⟩

/-- The members of an object may stand in any order. -/
theorem IsObjectOf.perm {value : Column → Token} {members members' : List Member}
    (h : IsObjectOf value members) (hperm : members'.Perm members) : IsObjectOf value members' where
  isValue m hm := h.isValue m (hperm.mem_iff.1 hm)
  isText m hm := h.isText m (hperm.mem_iff.1 hm)
  columns := (hperm.filterMap _).trans h.columns
  value_eq m hm := h.value_eq m (hperm.mem_iff.1 hm)

/-! ## What is read -/

/-- An object that has the members of a game is read as the game. -/
theorem ofJson_of_isObjectOf {g : Game} {value : Column → Token} {members : List Member}
    {text : String} (h : ∀ column, (value column).Denotes (g.entry column))
    (hmembers : IsObjectOf value members)
    (hspelled : Spelled (objectTokens members) text.toList) : Game.ofJson text = .ok g := by
  have hnodup : (members.filterMap Member.column?).Nodup :=
    hmembers.columns.nodup_iff.2 (by decide)
  have htake := Draft.foldlM_take_part [] hmembers.isText
    (fun m hm column hcolumn ↦ ⟨_, hmembers.value_eq m hm column hcolumn, h column⟩) hnodup nofun
  rw [ofJson_object hmembers.isValue hspelled, ← Draft.part_nil g, htake]
  refine Draft.toGame_part fun column ↦ ?_
  rw [List.append_nil, List.mem_reverse]
  exact hmembers.columns.mem_iff.2 column.mem_all

/-- In an object that is read as a game each column has one member. -/
theorem count_eq_one_of_ofJson {g : Game} {members : List Member} {text : String}
    (hvalue : ∀ m ∈ members, IsValue m.value)
    (hspelled : Spelled (objectTokens members) text.toList) (h : Game.ofJson text = .ok g)
    (column : Column) : (members.filterMap Member.column?).count column = 1 := by
  rw [ofJson_object hvalue hspelled] at h
  cases htake : members.foldlM Draft.take Draft.empty with
  | error e =>
    rw [htake] at h
    cases h
  | ok d =>
    rw [htake] at h
    obtain ⟨hnodup, -, hhas⟩ := Draft.has_foldlM_take htake
    have hmem := (hhas column).1 (Draft.has_of_toGame h column)
    rw [← Draft.part_nil g, Draft.has_part] at hmem
    exact hnodup.count.trans (if_pos (hmem.resolve_left (by simp)))

/-- Acceptable values for the ten columns are those of one game, and it is read from every object
that has them, in whatever order, among whatever other members and with whatever blanks, as it is
from the array of the values. An object in which a column has no member or more than one is never
read as a game. -/
theorem ofJson_depends_on_members :
    (∀ value : Column → Token, (∀ column : Column, column.expected.Accepts (value column)) →
      ∃ g : Game, (∀ column, (value column).Denotes (g.entry column)) ∧
        (∀ (members : List Member) (text : String), IsObjectOf value members →
          Spelled (objectTokens members) text.toList → Game.ofJson text = .ok g) ∧
        ∀ text : String, Spelled (arrayTokens (valuesInOrder value)) text.toList →
          Game.ofJson text = .ok g) ∧
    ∀ (members : List Member) (text : String), (∀ m ∈ members, IsValue m.value) →
      Spelled (objectTokens members) text.toList →
      (∃ column : Column, (members.filterMap Member.column?).count column ≠ 1) →
      ∃ e, Game.ofJson text = .error e := by
  constructor
  · intro value haccepts
    obtain ⟨g, hg⟩ := exists_entry_of_accepts haccepts
    exact ⟨g, hg, fun members text ↦ ofJson_of_isObjectOf hg, fun text ↦ ofJson_array hg⟩
  · rintro members text hvalue hspelled ⟨column, hcolumn⟩
    cases hread : Game.ofJson text with
    | error e => exact ⟨e, rfl⟩
    | ok g => exact absurd (count_eq_one_of_ofJson hvalue hspelled hread column) hcolumn

/-- The values of a game that is spelled with an escape, an exponent and a negative zero. -/
def sampleValue : Column → Token
  | .name => .string [.char 'G', .unit 0x6f]
  | .id => .number (integerNumber 188)
  | .minPlayers => .number (integerNumber 2)
  | .maxPlayers => .number (integerNumber 2)
  | .minTime => .number (integerNumber 30)
  | .maxTime => .number (integerNumber 2147483647)
  | .difficulty => .number ⟨false, ['3'], some ['9', '5'], some 0⟩
  | .rank => .number (integerNumber 150)
  | .rating => .number ⟨true, ['0'], none, none⟩
  | .year => .number (integerNumber (-2200))

/-- A member of an unknown key, whose value no text could be read from. -/
def sampleUnknown : Member :=
  ⟨[.char 'k'], arrayTokens [[.string [.unit 0xD800]], objectTokens []]⟩

/-- The members of the game, out of order and with a member of an unknown key among them. -/
def sampleMembers : List Member :=
  let members : List Column → List Member := List.map fun column ↦
    column.toMember (sampleValue column)
  members [.year, .name, .rank] ++ sampleUnknown ::
    members [.id, .rating, .maxTime, .minTime, .maxPlayers, .difficulty, .minPlayers]

theorem isObjectOf_sampleMembers : IsObjectOf sampleValue sampleMembers := by
  have hscalar (column : Column) : (sampleValue column).isScalar = true := by
    cases column <;> rfl
  have hunknown : IsValue sampleUnknown.value :=
    .array (List.forall_mem_cons.2 ⟨.scalar rfl, List.forall_mem_cons.2 ⟨.object nofun, nofun⟩⟩)
  have hcolumns : List.Perm ([.year, .name, .rank] ++
      [.id, .rating, .maxTime, .minTime, .maxPlayers, .difficulty, .minPlayers]) Column.all := by
    decide +kernel
  have hmembers := isObjectOf_map_toMember hscalar hcolumns
  rw [List.map_append] at hmembers
  exact (hmembers.cons hunknown rfl (by decide +kernel)).perm List.perm_middle

/-- A game is read from its members, out of order and among others, and from the array of its
values; an object with two members of one column is not read. -/
theorem ofJson_sample :
    (∃ g : Game, g.name = "Go" ∧
      Game.ofJson ("\x7b\"yearPublished\":-2200 ,\n\"name\":\"G\\u006f\",\"rank\":150," ++
        "\"k\":[\"\\uD800\",\x7b \x7d],\"id\":188,\"rating\":-0," ++
        "\"maxPlayTime\":2147483647,\"minPlayTime\":30," ++
        "\"maxPlayers\":2,\"difficulty\":3.95E+0,\"minPlayers\":2\x7d\r\n") = .ok g ∧
      Game.ofJson "[\"G\\u006F\",188,2,2,30, 2147483647 ,3.95e-0,150,-0,-2200]" = .ok g) ∧
    ∃ e, Game.ofJson "\x7b\"id\":188,\"id\":188\x7d" = .error e := by
  have haccepts (column : Column) : column.expected.Accepts (sampleValue column) := by
    cases column with
    | name => exact ⟨_, rfl⟩
    | difficulty | rating =>
      change Binary64.isFinite _ = true
      decide +kernel
    | _ => exact ⟨_, isInteger_integerNumber _, by decide, by decide⟩
  have hspelled {cs : List Char} {ts : List Token} (h : tokens cs = ts)
      (hend : .malformed ∉ ts) : Spelled ts cs := by
    subst h
    exact spelled_tokens hend
  let twice := List.replicate 2 (Column.id.toMember (sampleValue .id))
  have hvalue : ∀ m ∈ twice, IsValue m.value := by
    intro m hm
    rw [List.eq_of_mem_replicate hm]
    exact .scalar rfl
  obtain ⟨g, hentry, hobject, harray⟩ := ofJson_depends_on_members.1 sampleValue haccepts
  refine ⟨⟨g, ?_, hobject sampleMembers _ isObjectOf_sampleMembers ?_, harray _ ?_⟩,
    ofJson_depends_on_members.2 twice _ hvalue ?_ ⟨.id, by decide +kernel⟩⟩
  · have hname : some "Go".toList = some g.name.toList := hentry .name
    exact (String.toList_inj.1 (Option.some.inj hname)).symm
  · simp only [String.toList_append]
    exact hspelled (by decide +kernel) (by decide +kernel)
  · exact hspelled (by decide +kernel) (by decide +kernel)
  · exact hspelled (by decide +kernel) (by decide +kernel)

end GameShelf
