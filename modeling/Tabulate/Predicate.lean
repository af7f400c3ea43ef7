import Tabulate.Value

/-!
# Predicates

A predicate compares the cell of one column with a text. The comparison is named; a name that stands
for no comparison is kept as it is, since a predicate may be put together without being checked.
-/

namespace Tabulate

/-- How a predicate compares a cell with its value. -/
inductive Operator where
  | eq
  | neq
  | gt
  | lt
  | gte
  | lte
  | contains
  | other (name : String)
  deriving DecidableEq, Inhabited

namespace Operator

/-- The operators that a query may name. -/
def all : List Operator := [eq, neq, gt, lt, gte, lte, contains]

/-- The name of an operator. -/
def name : Operator → String
  | eq => "eq"
  | neq => "neq"
  | gt => "gt"
  | lt => "lt"
  | gte => "gte"
  | lte => "lte"
  | contains => "contains"
  | other name => name

/-- The operator of a name. -/
def ofName (name : String) : Operator := (all.find? (·.name == name)).getD (other name)

/-- Whether the operator is one that a query may name. -/
def known : Operator → Bool
  | other _ => false
  | _ => true

/-- Every name is that of its operator. -/
@[simp] theorem name_ofName (name : String) : (ofName name).name = name := by
  unfold ofName
  cases found : all.find? (·.name == name) with
  | none => rfl
  | some operator => simpa using List.find?_some found

/-- An operator that a query may name is found by its name. -/
theorem ofName_name {operator : Operator} (h : operator.known) :
    ofName operator.name = operator := by
  cases operator <;> first | rfl | simp [known] at h

end Operator

/-- A condition on the cell of one column. -/
structure Predicate where
  column : String
  operator : Operator
  value : String
  deriving DecidableEq, Inhabited

/-- The wire form of a predicate. -/
def Predicate.toValue (p : Predicate) : Value :=
  .record [("column", .str p.column), ("operator", .str p.operator.name), ("value", .str p.value)]

end Tabulate
