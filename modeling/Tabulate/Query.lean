import Tabulate.Aggregation
import Tabulate.Predicate
import Tabulate.Value.Equality

/-!
# Queries

What a chart asks of a dataset: the columns on its axes, how rows are condensed, by which columns
they are grouped first, and which rows count at all.
-/

namespace Tabulate

/-- A chart query. The dataset's identifier is kept as it was given until the query is
normalised. -/
structure Query where
  datasetId : Value := .null
  xAxis : Option String := none
  yAxis : Option String := none
  aggregation : Aggregation := .raw
  groupBy : List String := []
  filters : List Predicate := []
  deriving DecidableEq, Inhabited

namespace Query

/-- Whether rows are left as they are. -/
def isRaw (q : Query) : Bool := q.aggregation == .raw

/-- The columns whose texts decide the group of a row: those to group by, or else the column on the
x axis. -/
def keyColumns (q : Query) : List String :=
  if q.groupBy.isEmpty then
    match q.xAxis with
    | some x => if x = "" then [] else [x]
    | none => []
  else q.groupBy

/-- A column name as a value; `null` for none. -/
def nameValue : Option String → Value
  | some name => .str name
  | none => .null

/-- The wire form of a query. -/
def toValue (q : Query) : Value :=
  .record
    [ ("datasetId", q.datasetId), ("xAxis", nameValue q.xAxis), ("yAxis", nameValue q.yAxis),
      ("aggregation", .str q.aggregation.name), ("groupBy", .list (q.groupBy.map .str)),
      ("filters", .list (q.filters.map Predicate.toValue)) ]

end Query

end Tabulate
