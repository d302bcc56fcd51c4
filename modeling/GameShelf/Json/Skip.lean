import GameShelf.Json.Token

/-!
# Passing over a value

`skipValue?` passes over one value of any depth. It keeps the arrays and objects that are still open
on a stack, and what may come next; `advance?` says what one token does to both.
-/

namespace GameShelf.Json

inductive Frame where
  | array
  | object
deriving DecidableEq, Repr

inductive Next where
  /-- A value. -/
  | value
  /-- The first value of an array, or the end of the array. -/
  | valueOrEnd
  /-- The key of a member. -/
  | key
  /-- The key of the first member of an object, or the end of the object. -/
  | keyOrEnd
  /-- The colon behind a key. -/
  | colon
  /-- A comma, or the end of what is open. -/
  | separator
deriving DecidableEq, Repr

/-- What is open and what may come next behind the first token of a value. -/
def enter? (stack : List Frame) : Token → Option (List Frame × Next)
  | .null | .boolean _ | .number _ | .string _ => some (stack, .separator)
  | .beginArray => some (.array :: stack, .valueOrEnd)
  | .beginObject => some (.object :: stack, .keyOrEnd)
  | _ => none

/-- What is open and what may come next behind a token, unless the token is out of place. -/
def advance? : List Frame → Next → Token → Option (List Frame × Next)
  | .array :: stack, .valueOrEnd, .endArray => some (stack, .separator)
  | stack, .valueOrEnd, t => enter? stack t
  | stack, .value, t => enter? stack t
  | .object :: stack, .keyOrEnd, .endObject => some (stack, .separator)
  | stack, .keyOrEnd, .string _ => some (stack, .colon)
  | stack, .key, .string _ => some (stack, .colon)
  | stack, .colon, .colon => some (stack, .value)
  | .array :: stack, .separator, .comma => some (.array :: stack, .value)
  | .array :: stack, .separator, .endArray => some (stack, .separator)
  | .object :: stack, .separator, .comma => some (.object :: stack, .key)
  | .object :: stack, .separator, .endObject => some (stack, .separator)
  | _, _, _ => none

/-- What follows the end of all that is open. -/
def skip? : List Frame → Next → List Token → Option (List Token)
  | _, _, [] => none
  | stack, next, t :: ts =>
    match advance? stack next t with
    | none => none
    | some ([], .separator) => some ts
    | some (stack, next) => skip? stack next ts

/-- What follows the value at the front. -/
def skipValue? (ts : List Token) : Option (List Token) :=
  skip? [] .value ts

theorem length_lt_of_skip? {stack : List Frame} {next : Next} {ts rest : List Token}
    (h : skip? stack next ts = some rest) : rest.length < ts.length := by
  induction ts generalizing stack next with
  | nil => simp [skip?] at h
  | cons t ts ih =>
    rw [skip?] at h
    split at h
    · simp at h
    · simp_all
    · have := ih h
      simp only [List.length_cons]
      omega

end GameShelf.Json
