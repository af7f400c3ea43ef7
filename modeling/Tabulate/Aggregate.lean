import Tabulate.Fault
import Tabulate.Grouping
import Tabulate.Query
import Tabulate.Scalar

/-!
# Condensing groups of rows

The rows of a group become one row: the key columns as the group's first member has them, and one
figure made of the group's numbers on the y axis.

A sum is compensated: what rounding cut off one addition is taken off the next term.
-/

namespace Tabulate

namespace Binary64

/-- A running sum and what the additions so far have put in too much. -/
structure RunningSum where
  total : Binary64
  excess : Binary64

/-- One more term. The excess starts anew when it is not finite, so that a total that has overflowed
stays infinite. -/
def RunningSum.add (s : RunningSum) (x : Binary64) : RunningSum :=
  let term := x.sub s.excess
  let total := s.total.add term
  let excess := (total.sub s.total).sub term
  ⟨total, if excess.isFinite then excess else zero⟩

/-- The compensated sum of numbers, from left to right. -/
def sum (xs : List Binary64) : Binary64 := (xs.foldl RunningSum.add ⟨zero, zero⟩).total

/-- The least of `x` and `xs`, the first among equals. -/
def least (x : Binary64) (xs : List Binary64) : Binary64 :=
  xs.foldl (fun m y => if y.lt m then y else m) x

/-- The greatest of `x` and `xs`, the first among equals. -/
def greatest (x : Binary64) (xs : List Binary64) : Binary64 :=
  xs.foldl (fun m y => if m.lt y then y else m) x

end Binary64

/-- The figure that an aggregation makes of the numbers `x` and `xs`, if it makes one. -/
def Aggregation.figure? : Aggregation → Option (Binary64 → List Binary64 → Value)
  | count => some fun x xs => .int ((x :: xs).countP (!·.isNaN))
  | sum => some fun x xs => .float (.sum (x :: xs))
  | avg => some fun x xs => .float ((Binary64.sum (x :: xs)).divNat (xs.length + 1))
  | min => some fun x xs => .float (.least x xs)
  | max => some fun x xs => .float (.greatest x xs)
  | raw | other _ => none

/-- The value that a row shows for a key column: its own, or the empty text when the cell is
absent. -/
def Row.keyValue (row : Row) (column : String) : Value :=
  if (row.cell column).isAbsent then .str "" else (row.get? column).getD .null

/-- The key of a row: the texts of its cells in the key columns. -/
def Row.key (columns : List String) (row : Row) : List String :=
  columns.map fun column => (row.cell column).text

/-- How the columns of a condensed row are named: the x axis, the y axis and the columns to group
by. -/
structure Labels (κ : Type) where
  x : κ
  y : κ
  column : String → κ

/-- The labels of a query whose axes may be without a name. -/
def Query.labels (q : Query) : Labels (Option String) := ⟨q.xAxis, q.yAxis, some⟩

section Condensing

variable {κ : Type} [DecidableEq κ]

/-- The row of a group: under the x axis the value of the column `first`, then the columns to group
by, and the figure under the y axis. -/
def Query.groupRow (q : Query) (labels : Labels κ) (first : String)
    (figure : Binary64 → List Binary64 → Value) (g : Group (List String) Row) : Row κ :=
  let number (row : Row) : Binary64 := (row.cell? q.yAxis).coerce
  let start := Row.empty.set labels.x (g.first.keyValue first)
  let keyed := q.groupBy.foldl
    (fun row column => row.set (labels.column column) (g.first.keyValue column)) start
  keyed.set labels.y (figure (number g.first) (g.others.map number))

/-- One row for each group of rows. Rows have to be grouped by something, and the aggregation has to
be known. -/
def Query.condense (q : Query) (labels : Labels κ) (rows : List Row) :
    Except Fault (List (Row κ)) :=
  if rows.isEmpty then .ok []
  else
    match q.keyColumns, q.aggregation.figure? with
    | [], _ => .error .noGroupKeys
    | _, none => .error (.missingKey q.aggregation.name)
    | first :: others, some figure =>
      .ok ((Group.ofList (Row.key (first :: others)) rows).map (q.groupRow labels first figure))

end Condensing

/-- One row for each group of rows, for a query that may lack an axis: what stands under it has no
column name. -/
def aggregateRows (rows : List Row) (q : Query) : Except Fault (List (Row (Option String))) :=
  q.condense q.labels rows

end Tabulate
