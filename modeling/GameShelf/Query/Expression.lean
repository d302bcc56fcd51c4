import GameShelf.Numeral.Decimal
import GameShelf.Query.Basic
import GameShelf.Query.Error
import GameShelf.Text.Blank

/-!
# Filter expressions

A filter expression is a list of clauses between commas, and a clause is a field, an operator and a
value; blanks around each of them do not count. `Reading.ofText` reads one clause, and `compile` a
whole expression.

A clause that makes no sense is ignored, and the compilation reports it with the reason; the rest
of the expression still applies. A number that cannot be read, or that is out of range, is an error
of the whole expression: integers have 32 bits, and other numbers are finite.
-/

namespace GameShelf

/-- Why a clause is ignored. -/
inductive Skip (F : Type) where
  /-- No operator occurs in it. -/
  | noOperator
  /-- The operator does not separate it into a field and a value. -/
  | malformed
  /-- No field that can be queried has this name. -/
  | unknownField (name : String)
  /-- The operator does not apply to fields of this kind. -/
  | unsupportedOperator (field : F) (op : Operator)
deriving DecidableEq, Repr

def Skip.reason {F : Type} [Schema F] : Skip F → String
  | noOperator => "no operator"
  | malformed => "expected <field> <op> <value>"
  | unknownField name => "unknown field '" ++ name ++ "'"
  | unsupportedOperator field op =>
    "operator '" ++ op.symbol ++ "' does not apply to " ++ Schema.name field

/-- What a clause is read as. -/
inductive Reading (F : Type) where
  | compiled (c : Clause F)
  | ignored (s : Skip F)
  | invalid (e : QueryError)
deriving DecidableEq, Repr

def Operator.appliesTo (op : Operator) : Kind → Bool
  | .text => op.isText
  | .integer | .float => op.isNumeric

def fitsInt32 (n : Int) : Bool :=
  Int32.minValue.toInt ≤ n && n ≤ Int32.maxValue.toInt

/-- The literal of a kind that a text denotes. -/
def Literal.ofText? (kind : Kind) (s : String) : Option Literal :=
  match kind with
  | .text => some (.text s)
  | .integer => ((Numeral.integer? s.toList).filter fitsInt32).map fun n ↦ .number (.integer n)
  | .float => (Decimal.finite? s.toList).map fun x ↦ .number (.float x)

namespace Reading

variable {F : Type} [Schema F]

/-- What a field name, an operator and a value are read as. -/
def ofParts (name : String) (op : Operator) (value : String) : Reading F :=
  match Schema.queryable? name with
  | none => ignored (.unknownField name)
  | some (field, kind) =>
    if op.appliesTo kind then
      match Literal.ofText? kind value with
      | some literal => compiled { field, op, literal }
      | none => invalid (.invalidValue (Schema.name field) value kind)
    else ignored (.unsupportedOperator field op)

def ofText (s : String) : Reading F :=
  match Operator.find? s.toList with
  | none => ignored .noOperator
  | some op =>
    match Text.splitOnce? op.token s.toList with
    | none => ignored .malformed
    | some (before, rest) =>
      let name := Text.strip before
      let value := Text.strip rest
      if name.isEmpty || value.isEmpty then ignored .malformed
      else ofParts (String.ofList name) op (String.ofList value)

end Reading

structure Dropped (F : Type) where
  clause : String
  reason : Skip F
deriving DecidableEq, Repr

/-- What an expression is read as: a query or the first error, and the clauses that were ignored
before the end or before the error. -/
structure Compilation (F : Type) where
  dropped : List (Dropped F)
  result : Except QueryError (Query F)

namespace Compilation

variable {F : Type} [Schema F]

def empty : Compilation F :=
  ⟨[], .ok ⟨[]⟩⟩

/-- The compilation that reads one more clause in front. An error hides all that follows it. -/
def cons (clause : String) (rest : Compilation F) : Compilation F :=
  match Reading.ofText clause with
  | .compiled c => { rest with result := rest.result.map (Query.cons c) }
  | .ignored reason => { rest with dropped := { clause, reason } :: rest.dropped }
  | .invalid e => { dropped := [], result := .error e }

def ofClauses (clauses : List String) : Compilation F :=
  clauses.foldr cons empty

end Compilation

/-- The clauses of an expression: its pieces between commas, without the blanks around them. -/
def clauseTexts (expression : String) : List String :=
  (expression.toList.splitOn ',').map fun piece ↦ String.ofList (Text.strip piece)

/-- Reads an expression. A blank expression has no clause. -/
def compile {F : Type} [Schema F] (expression : String) : Compilation F :=
  if (Text.strip expression.toList).isEmpty then .empty
  else .ofClauses (clauseTexts expression)

end GameShelf
