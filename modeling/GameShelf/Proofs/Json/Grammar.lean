import GameShelf.Json.Token

/-!
# The grammar of JSON text

How a text spells its tokens, and which rows of tokens are a value. A token can be spelled in more
than one way: a character of a string may be escaped, and blanks may stand before every token and at
the end of the text. The grammar says what a text is, not how it is read.
-/

namespace GameShelf.Json

/-! ## The spelling of tokens -/

/-- How a piece of a string is spelled. -/
inductive Piece.Spelled : Piece → List Char → Prop where
  /-- A character that is neither the quote, the backslash nor a control character. -/
  | plain {c : Char} (hcontrol : 0x20 ≤ c.toNat) (hquote : c ≠ '"') (hbackslash : c ≠ '\\') :
      Spelled (.char c) [c]
  | escape {letter c : Char} (h : escaped? letter = some c) : Spelled (.char c) ['\\', letter]
  | unit {a b c d : Char} {n : Nat} (h : unit? a b c d = some n) :
      Spelled (.unit n) ['\\', 'u', a, b, c, d]

/-- How the pieces of a string are spelled between its quotes. -/
inductive SpelledPieces : List Piece → List Char → Prop where
  | nil : SpelledPieces [] []
  | cons {piece : Piece} {pieces : List Piece} {text rest : List Char} (head : piece.Spelled text)
      (tail : SpelledPieces pieces rest) : SpelledPieces (piece :: pieces) (text ++ rest)

def IsDigits (cs : List Char) : Prop :=
  cs ≠ [] ∧ ∀ c ∈ cs, c.isDigit

inductive SpelledFraction : Option (List Char) → List Char → Prop where
  | none : SpelledFraction none []
  | some {digits : List Char} (h : IsDigits digits) : SpelledFraction (some digits) ('.' :: digits)

inductive SpelledExponent : Option Int → List Char → Prop where
  | none : SpelledExponent none []
  | some {letter : Char} {power : List Char} {e : Int} (hletter : letter = 'e' ∨ letter = 'E')
      (hpower : Numeral.integer? power = some e) : SpelledExponent (some e) (letter :: power)

/-- How a number without its sign is spelled. The whole part has no leading zero. -/
def NumberText.SpelledBody (n : NumberText) (text : List Char) : Prop :=
  IsDigits n.whole ∧ (n.whole.head? = some '0' → n.whole = ['0']) ∧
    ∃ fraction exponent, SpelledFraction n.fraction fraction ∧
      SpelledExponent n.exponent exponent ∧ text = n.whole ++ fraction ++ exponent

inductive Token.Spelled : Token → List Char → Prop where
  | beginObject : Spelled .beginObject ['{']
  | endObject : Spelled .endObject ['}']
  | beginArray : Spelled .beginArray ['[']
  | endArray : Spelled .endArray [']']
  | colon : Spelled .colon [':']
  | comma : Spelled .comma [',']
  | null : Spelled .null ['n', 'u', 'l', 'l']
  | true : Spelled (.boolean true) ['t', 'r', 'u', 'e']
  | false : Spelled (.boolean false) ['f', 'a', 'l', 's', 'e']
  | negative {n : NumberText} {body : List Char} (hsign : n.negative = true)
      (hbody : n.SpelledBody body) : Spelled (.number n) ('-' :: body)
  | nonnegative {n : NumberText} {body : List Char} (hsign : n.negative = false)
      (hbody : n.SpelledBody body) : Spelled (.number n) body
  | string {pieces : List Piece} {text : List Char} (h : SpelledPieces pieces text) :
      Spelled (.string pieces) ('"' :: text ++ ['"'])

/-- How a row of tokens is spelled, with blanks before each of them and behind the last. -/
inductive Spelled : List Token → List Char → Prop where
  | nil {blanks : List Char} (hblanks : ∀ c ∈ blanks, isBlank c) : Spelled [] blanks
  | cons {blanks word rest : List Char} {t : Token} {ts : List Token}
      (hblanks : ∀ c ∈ blanks, isBlank c) (head : t.Spelled word) (tail : Spelled ts rest) :
      Spelled (t :: ts) (blanks ++ word ++ rest)

/-! ## Values -/

/-- A member of an object: its key and the tokens of its value. -/
structure Member where
  key : List Piece
  value : List Token
deriving DecidableEq, Repr

def Member.tokens (m : Member) : List Token :=
  .string m.key :: .colon :: m.value

def arrayTokens (values : List (List Token)) : List Token :=
  .beginArray :: [.comma].intercalate values ++ [.endArray]

def objectTokens (members : List Member) : List Token :=
  .beginObject :: [.comma].intercalate (members.map Member.tokens) ++ [.endObject]

/-- Whether a token is a value by itself. -/
def Token.isScalar : Token → Bool
  | .null | .boolean _ | .number _ | .string _ => true
  | _ => false

/-- Whether a row of tokens is a value. -/
inductive IsValue : List Token → Prop where
  | scalar {t : Token} (h : t.isScalar = true) : IsValue [t]
  | array {values : List (List Token)} (h : ∀ value ∈ values, IsValue value) :
      IsValue (arrayTokens values)
  | object {members : List Member} (h : ∀ m ∈ members, IsValue m.value) :
      IsValue (objectTokens members)

/-- The separators stand before each of the later rows. -/
theorem intercalate_cons {α : Type} (separator : α) (row : List α) (rows : List (List α)) :
    [separator].intercalate (row :: rows) = row ++ rows.flatMap (separator :: ·) := by
  induction rows generalizing row with
  | nil => simp
  | cons next rows ih =>
    rw [List.intercalate_cons_cons, ih next, List.flatMap_cons, List.append_assoc]
    rfl

/-! ## Rows of tokens -/

theorem spelled_singleton {t : Token} {word : List Char} (h : t.Spelled word) :
    Spelled [t] word := by
  have hrow : Spelled [t] ([] ++ word ++ []) := .cons nofun h (.nil nofun)
  rwa [List.nil_append, List.append_nil] at hrow

/-- A row of tokens is spelled by the spellings of its parts. -/
theorem Spelled.append {ts us : List Token} {cs ds : List Char} (hts : Spelled ts cs)
    (hus : Spelled us ds) : Spelled (ts ++ us) (cs ++ ds) := by
  induction hts with
  | @nil blanks hblanks =>
    rw [List.nil_append]
    cases hus with
    | nil hblanks' => exact .nil (List.forall_mem_append.2 ⟨hblanks, hblanks'⟩)
    | cons hblanks' head tail =>
      rw [← List.append_assoc, ← List.append_assoc]
      exact .cons (List.forall_mem_append.2 ⟨hblanks, hblanks'⟩) head tail
  | cons hblanks head _ ih =>
    rw [List.cons_append, List.append_assoc]
    exact .cons hblanks head ih

theorem spelled_intercalate {α : Type} {row : α → List Token} {text : α → List Char}
    (h : ∀ a, Spelled (row a) (text a)) (as : List α) :
    Spelled ([.comma].intercalate (as.map row)) ([','].intercalate (as.map text)) := by
  induction as with
  | nil => exact .nil nofun
  | cons a as ih =>
    cases as with
    | nil => simpa only [List.map_singleton, List.intercalate_singleton] using h a
    | cons b as =>
      simp only [List.map_cons, List.intercalate_cons_cons] at ih ⊢
      exact ((h a).append (spelled_singleton .comma)).append ih

end GameShelf.Json
