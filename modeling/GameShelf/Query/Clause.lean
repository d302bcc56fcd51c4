import GameShelf.Query.Operator
import GameShelf.Query.Schema

/-!
# Clauses

A clause compares the value that a record holds in a field with a literal. Texts are compared up to
letter case. A clause whose literal is not of the same sort as the value never matches, and neither
does one whose operator does not apply to it.
-/

namespace GameShelf

/-- What a clause compares with. -/
inductive Literal where
  | text (s : String)
  | number (n : Number)
deriving DecidableEq, Repr

structure Clause (F : Type) where
  field : F
  op : Operator
  literal : Literal
deriving DecidableEq, Repr

namespace Operator

def matchesText (op : Operator) (s pattern : String) : Bool :=
  match op with
  | eq => Text.equalFold s pattern
  | ne => !Text.equalFold s pattern
  | contains => Text.occurs (Text.fold pattern).toList (Text.fold s).toList
  | _ => false

/-- Whether an operator holds between two numbers. Of a NaN only `ne` holds. -/
def matchesNumber (op : Operator) (a b : Number) : Bool :=
  match a.compare? b with
  | some o => op.holds o
  | none => op == ne

def compares (op : Operator) (v : Value) (l : Literal) : Bool :=
  match l, v with
  | .text pattern, .text s => op.matchesText s pattern
  | .number b, .number a => op.matchesNumber a b
  | _, _ => false

end Operator

def Clause.accepts {T F : Type} [Record T F] (c : Clause F) (r : T) : Bool :=
  c.op.compares (Record.value r c.field) c.literal

@[simp]
theorem Operator.compares_absent (op : Operator) (l : Literal) :
    op.compares .absent l = false := by
  cases l <;> rfl

end GameShelf
