import Tabulate.Predicate
import Tabulate.Scalar
import Tabulate.Text.Substring

/-!
# Filtering rows

Whether a row satisfies a predicate depends on the row's own cell alone: an absent cell satisfies
none. Two numbers are compared as numbers, other equality is that of texts, and a cell or value that
is no number is in no order.
-/

namespace Tabulate

/-- Whether a cell equals the value of a predicate: as a number if both are numbers, as a text
otherwise. A cell that is no number is compared as a text even with a value that is one. -/
def Scalar.equals (c : Scalar) (value : String) : Bool :=
  match parseNumber value, c.number? with
  | some target, some x => x.numEq target
  | _, _ => c.text == value

/-- Whether a cell and a value are both numbers and in the given order. -/
def Scalar.inOrder (order : Binary64 → Binary64 → Bool) (c : Scalar) (value : String) : Bool :=
  match parseNumber value, c.number? with
  | some target, some x => order x target
  | _, _ => false

/-- Whether a present cell compares with a value as the operator says; an unknown operator is taken
for `lte`. -/
def Operator.holds : Operator → Scalar → String → Bool
  | eq, c, value => c.equals value
  | neq, c, value => !c.equals value
  | gt, c, value => c.inOrder (fun x target => target.lt x) value
  | lt, c, value => c.inOrder Binary64.lt value
  | gte, c, value => c.inOrder (fun x target => target.le x) value
  | contains, c, value => occursIn value.toList c.text.toList
  | lte, c, value | other _, c, value => c.inOrder Binary64.le value

/-- Whether a row satisfies a predicate. -/
def Predicate.matches (p : Predicate) (row : Row) : Bool :=
  !(row.cell p.column).isAbsent && p.operator.holds (row.cell p.column) p.value

/-- For each row, whether it satisfies the predicate. -/
def Predicate.mask (p : Predicate) (rows : List Row) : List Bool := rows.map p.matches

/-- The rows that satisfy all predicates, in their order. -/
def filterRows (rows : List Row) (filters : List Predicate) : List Row :=
  rows.filter fun row => filters.all (·.matches row)

end Tabulate
