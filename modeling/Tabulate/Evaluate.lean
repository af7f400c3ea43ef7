import Tabulate.Aggregate
import Tabulate.Filter
import Tabulate.Query.Normal

/-!
# Evaluating queries

The rows that a chart shows: filtered, and either condensed or, for a raw query, as they are. When a
raw query names both axes, the y axis holds numbers and an absent cell of the x axis is shown as the
empty text.
-/

namespace Tabulate

/-- The columns on both axes, if both are named and not empty. -/
def Query.axes? (q : Query) : Option (String × String) :=
  match q.xAxis, q.yAxis with
  | some x, some y => if x = "" ∨ y = "" then none else some (x, y)
  | _, _ => none

/-- A row as a raw query with both axes shows it. -/
def Row.onAxes (row : Row) (x y : String) : Row :=
  let filled := if (row.cell x).isAbsent then row.set x (.str "") else row
  filled.set y (.float (row.cell y).coerce)

/-- The rows of a raw query. -/
def shapeRows (rows : List Row) (q : Query) : List Row :=
  match q.axes? with
  | some (x, y) => rows.map (·.onAxes x y)
  | none => rows

/-- The rows that a query makes of a dataset's rows. An aggregation needs both axes; a query in
normal form has them. -/
def Query.run (q : Query) (rows : List Row) : Except Fault (List Row) :=
  let survivors := filterRows rows q.filters
  if q.isRaw then .ok (shapeRows survivors q)
  else
    match q.xAxis, q.yAxis with
    | some x, some y => q.condense ⟨x, y, id⟩ survivors
    | none, _ => .error (.rejected (.axisRequired .x q.aggregation))
    | _, none => .error (.rejected (.axisRequired .y q.aggregation))

/-- The rows that a wire query makes of a dataset's rows. Without a dataset the fault names `id`, or
the query's own identifier when `id` is `null`; a query that is rejected is rejected first. -/
def evaluate (rows : Option (List Row)) (wire : Value) (id : Value) : Except Fault (List Row) := do
  let q ← Query.ofValue wire
  match rows with
  | some rows => q.run rows
  | none =>
    throw (.notFound (match id with
      | .null => q.datasetId
      | id => id))

end Tabulate
