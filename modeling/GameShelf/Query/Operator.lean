import GameShelf.Text.Occurrence

/-!
# Comparison operators

The seven operators of a filter clause and their tokens. Longer tokens stand before the ones they
contain, so the operator of a clause is the first of the list whose token occurs anywhere in it.
-/

namespace GameShelf

inductive Operator where
  | ge
  | le
  | eq
  | ne
  | contains
  | gt
  | lt
deriving DecidableEq, Repr

namespace Operator

/-- All operators in the order in which a clause is searched for them. -/
def precedence : List Operator := [ge, le, eq, ne, contains, gt, lt]

def token : Operator → List Char
  | ge => ['>', '=']
  | le => ['<', '=']
  | eq => ['=', '=']
  | ne => ['!', '=']
  | contains => ['~', '=']
  | gt => ['>']
  | lt => ['<']

def symbol (op : Operator) : String :=
  String.ofList op.token

def ofSymbol? (s : String) : Option Operator :=
  precedence.find? fun op ↦ op.token == s.toList

/-- The first operator in the order of precedence whose token occurs in the characters. -/
def find? (cs : List Char) : Option Operator :=
  precedence.find? fun op ↦ Text.occurs op.token cs

def isText : Operator → Bool
  | eq | ne | contains => true
  | _ => false

def isNumeric : Operator → Bool
  | contains => false
  | _ => true

/-- Whether an operator holds of two things that stand in the given order. -/
def holds : Operator → Ordering → Bool
  | eq, o => o == .eq
  | ne, o => o != .eq
  | gt, o => o == .gt
  | ge, o => o != .lt
  | lt, o => o == .lt
  | le, o => o != .gt
  | contains, _ => false

theorem mem_precedence (op : Operator) : op ∈ precedence := by
  cases op <;> decide

theorem token_ne_nil (op : Operator) : op.token ≠ [] := by
  cases op <;> decide

/-- A text without any token has no operator. -/
theorem find?_eq_none_iff {cs : List Char} :
    find? cs = none ↔ ∀ op : Operator, Text.occurs op.token cs = false := by
  simp only [find?, List.find?_eq_none, Bool.not_eq_true]
  exact ⟨fun h op ↦ h op (mem_precedence op), fun h op _ ↦ h op⟩

end Operator

end GameShelf
