import GameShelf.Game.Column
import GameShelf.Json.Found
import GameShelf.Json.Lexer
import GameShelf.Json.Skip

/-!
# Reading a game from JSON text

A game is written as an object with one member for each field, in any order and among other members,
or as an array of the ten values in the order of the record. The text is read from left to right,
and the first problem is the one that is reported: a value of the wrong type as soon as it begins,
a repeated field behind its second key, and a missing field at the end of the object.
-/

namespace GameShelf

def Column.member : Column → String
  | .year => "yearPublished"
  | column => column.canonicalName

/-- The column of a key. -/
def Column.ofMember? (key : String) : Option Column :=
  all.find? fun column ↦ column.member == key

/-- What a reader expects to find. -/
inductive Expectation where
  | string
  | unsigned
  | signed
  | float
  | record
deriving DecidableEq, Repr

def Expectation.description : Expectation → String
  | string => "a string"
  | unsigned => "u32"
  | signed => "i32"
  | float => "f64"
  | record => "struct BoardGame"

inductive DecodeError where
  /-- The text is no JSON text, or its array goes on behind the last value. -/
  | malformed
  /-- A value is of another type than expected. -/
  | wrongType (found : Json.Found) (expected : Expectation)
  /-- An integer is out of the range of its field. -/
  | outOfRange (n : Int) (expected : Expectation)
  /-- The array ends behind the given number of values. -/
  | wrongLength (n : Nat)
  /-- The object has no member for a field. -/
  | missingField (column : Column)
  /-- The object has two members for a field. -/
  | duplicateField (column : Column)
deriving DecidableEq, Repr

/-- What is wrong, in words. Of a text that is malformed nothing more is said. -/
def DecodeError.message? : DecodeError → Option String
  | malformed => none
  | wrongType found expected =>
    some ("invalid type: " ++ found.description ++ ", expected " ++ expected.description)
  | outOfRange n expected =>
    some ("invalid value: integer `" ++ n.repr ++ "`, expected " ++ expected.description)
  | wrongLength n =>
    some ("invalid length " ++ n.repr ++ ", expected " ++ Expectation.record.description ++
      " with " ++ Column.all.length.repr ++ " elements")
  | missingField column => some ("missing field `" ++ column.member ++ "`")
  | duplicateField column => some ("duplicate field `" ++ column.member ++ "`")

namespace Json.Found

def toText : Found → Except DecodeError String
  | string s => .ok s
  | found => .error (.wrongType found .string)

/-- The integer of 32 bits without a sign that is found. -/
def toUnsigned : Found → Except DecodeError UInt32
  | integer n =>
    if 0 ≤ n ∧ n < UInt32.size then .ok (UInt32.ofNat n.toNat)
    else .error (.outOfRange n .unsigned)
  | found => .error (.wrongType found .unsigned)

/-- The integer of 32 bits with a sign that is found. -/
def toSigned : Found → Except DecodeError Int32
  | integer n =>
    if Int32.minValue.toInt ≤ n ∧ n ≤ Int32.maxValue.toInt then .ok (Int32.ofInt n)
    else .error (.outOfRange n .signed)
  | found => .error (.wrongType found .signed)

/-- The number of double precision that is found; an integer is rounded to it. -/
def toFloat : Found → Except DecodeError Binary64
  | integer n => .ok (Binary64.ofInt n)
  | float x => .ok x
  | found => .error (.wrongType found .float)

end Json.Found

open Json

/-- The fields of a game that have been read. -/
structure Draft where
  name : Option String
  id : Option UInt32
  minPlayers : Option Int32
  maxPlayers : Option Int32
  minPlayTime : Option Int32
  maxPlayTime : Option Int32
  difficulty : Option Binary64
  rank : Option Int32
  rating : Option Binary64
  yearPublished : Option Int32
deriving DecidableEq, Repr

namespace Draft

def empty : Draft :=
  ⟨none, none, none, none, none, none, none, none, none, none⟩

def has (d : Draft) : Column → Bool
  | .name => d.name.isSome
  | .id => d.id.isSome
  | .minPlayers => d.minPlayers.isSome
  | .maxPlayers => d.maxPlayers.isSome
  | .minTime => d.minPlayTime.isSome
  | .maxTime => d.maxPlayTime.isSome
  | .difficulty => d.difficulty.isSome
  | .rank => d.rank.isSome
  | .rating => d.rating.isSome
  | .year => d.yearPublished.isSome

def set (d : Draft) (column : Column) (found : Found) : Except DecodeError Draft :=
  match column with
  | .name => found.toText.map fun v ↦ { d with name := some v }
  | .id => found.toUnsigned.map fun v ↦ { d with id := some v }
  | .minPlayers => found.toSigned.map fun v ↦ { d with minPlayers := some v }
  | .maxPlayers => found.toSigned.map fun v ↦ { d with maxPlayers := some v }
  | .minTime => found.toSigned.map fun v ↦ { d with minPlayTime := some v }
  | .maxTime => found.toSigned.map fun v ↦ { d with maxPlayTime := some v }
  | .difficulty => found.toFloat.map fun v ↦ { d with difficulty := some v }
  | .rank => found.toSigned.map fun v ↦ { d with rank := some v }
  | .rating => found.toFloat.map fun v ↦ { d with rating := some v }
  | .year => found.toSigned.map fun v ↦ { d with yearPublished := some v }

/-- The value of a field, which has to be there. -/
def need {α : Type} (column : Column) : Option α → Except DecodeError α
  | some v => .ok v
  | none => .error (.missingField column)

/-- The game of a complete draft; of several fields that are missing the first is reported. -/
def toGame (d : Draft) : Except DecodeError Game := do
  let name ← need .name d.name
  let id ← need .id d.id
  let minPlayers ← need .minPlayers d.minPlayers
  let maxPlayers ← need .maxPlayers d.maxPlayers
  let minPlayTime ← need .minTime d.minPlayTime
  let maxPlayTime ← need .maxTime d.maxPlayTime
  let difficulty ← need .difficulty d.difficulty
  let rank ← need .rank d.rank
  let rating ← need .rating d.rating
  let yearPublished ← need .year d.yearPublished
  return { name, id, minPlayers, maxPlayers, minPlayTime, maxPlayTime, difficulty, rank, rating,
           yearPublished }

def readValue (d : Draft) (column : Column) : List Token → Except DecodeError (Draft × List Token)
  | [] => .error .malformed
  | t :: ts =>
    match t.found? with
    | none => .error .malformed
    | some found => (d.set column found).map fun d ↦ (d, ts)

/-- Reads a member: a key, a colon and a value. The value of a key that is no field is passed over,
and a field must not have been read before. -/
def readMember (d : Draft) : List Token → Except DecodeError (Draft × List Token)
  | .string pieces :: ts =>
    match text? pieces with
    | none => .error .malformed
    | some key =>
      match Column.ofMember? (String.ofList key) with
      | none =>
        match ts with
        | .colon :: ts =>
          match skipValue? ts with
          | none => .error .malformed
          | some rest => .ok (d, rest)
        | _ => .error .malformed
      | some column =>
        if d.has column then .error (.duplicateField column)
        else match ts with
          | .colon :: ts => d.readValue column ts
          | _ => .error .malformed
  | _ => .error .malformed

theorem length_lt_of_readValue {d d' : Draft} {column : Column} {ts rest : List Token}
    (h : d.readValue column ts = .ok (d', rest)) : rest.length < ts.length := by
  unfold readValue at h
  split at h
  · simp at h
  · split at h
    · simp at h
    · next found _ =>
      cases hs : d.set column found with
      | error e => simp [hs, Except.map] at h
      | ok v =>
        simp only [hs, Except.map, Except.ok.injEq, Prod.mk.injEq] at h
        simp [← h.2]

theorem length_lt_of_readMember {d d' : Draft} {ts rest : List Token}
    (h : d.readMember ts = .ok (d', rest)) : rest.length < ts.length := by
  unfold readMember at h
  split at h
  · split at h
    · simp at h
    · split at h
      · split at h
        · split at h
          · simp at h
          · next hs =>
            simp only [Except.ok.injEq, Prod.mk.injEq] at h
            have := length_lt_of_skip? hs
            simp only [List.length_cons, ← h.2]
            omega
        · simp at h
      · split at h
        · simp at h
        · split at h
          · have := length_lt_of_readValue h
            simp only [List.length_cons]
            omega
          · simp at h
  · simp at h

/-- Reads the members of an object, with commas between them, and its end. -/
def readMembers (d : Draft) (ts : List Token) : Except DecodeError (Draft × List Token) :=
  match _h : d.readMember ts with
  | .error e => .error e
  | .ok (d, .comma :: rest) => d.readMembers rest
  | .ok (d, .endObject :: rest) => .ok (d, rest)
  | .ok _ => .error .malformed
termination_by ts.length
decreasing_by
  have := length_lt_of_readMember _h
  simp only [List.length_cons] at this
  omega

/-- What follows a comma, if there has to be one. -/
def afterComma? : Bool → List Token → Option (List Token)
  | false, ts => some ts
  | true, .comma :: ts => some ts
  | true, _ => none

/-- Reads the values of an array, one for each of the fields, with commas between them, and its
end; `count` values have been read before. -/
def readElements (d : Draft) (count : Nat) :
    List Column → List Token → Except DecodeError (Draft × List Token)
  | [], .endArray :: rest => .ok (d, rest)
  | [], _ => .error .malformed
  | _ :: _, .endArray :: _ => .error (.wrongLength count)
  | column :: columns, ts =>
    match afterComma? (count ≠ 0) ts with
    | none => .error .malformed
    | some ts =>
      match d.readValue column ts with
      | .error e => .error e
      | .ok (d, rest) => d.readElements (count + 1) columns rest

/-- Reads the fields of a game and the end of the object or array that holds them. -/
def ofTokens : List Token → Except DecodeError (Draft × List Token)
  | .beginObject :: .endObject :: rest => .ok (empty, rest)
  | .beginObject :: ts => empty.readMembers ts
  | .beginArray :: ts => empty.readElements 0 Column.all ts
  | t :: _ =>
    match t.found? with
    | none => .error .malformed
    | some found => .error (.wrongType found .record)
  | [] => .error .malformed

end Draft

/-- The game that a JSON text holds. Nothing may follow it. -/
def Game.ofJson (text : String) : Except DecodeError Game :=
  match Draft.ofTokens (tokens text.toList) with
  | .error e => .error e
  | .ok (d, rest) => d.toGame.bind fun game ↦
    if rest.isEmpty then .ok game else .error .malformed

end GameShelf
