import Tabulate.Number.Integer
import Tabulate.Query
import Tabulate.Text.Blank
import Tabulate.Text.Substring
import Tabulate.Value.Access

/-!
# Normalising queries

A wire value becomes a query, or is rejected. Names are trimmed and blank ones count as absent; the
aggregation and the operators are trimmed and lower-cased and must be known; a filter without a
column is dropped; an aggregation needs both axes, and grouping needs an aggregation. The first
check that fails decides the rejection: the aggregation, then the filters in order, then grouping,
the axes and the dataset's identifier.
-/

namespace Tabulate

/-- Lower case for the letters of ASCII. No other letter has a lower-case form among the letters of
the names that are compared with the result. -/
def lowercase (s : String) : String := String.ofList (s.toList.map Char.toLower)

namespace Wire

/-- Whether one of the items is the text `key`; a missing item before it cannot be compared. -/
def listHas (key : String) : List Value → Except Fault Bool
  | [] => .ok false
  | .missing :: _ => .error .undecidedTruth
  | .str s :: rest => if s = key then .ok true else listHas key rest
  | _ :: rest => listHas key rest

/-- The value of a key in a wire value, which ought to be a record. A text or list that happens to
hold the key is still no record. -/
def lookup (wire : Value) (key : String) : Except Fault (Option Value) :=
  match wire with
  | .record fields => .ok (fields.lookup key)
  | .str s => if occursIn key.toList s.toList then .error .textNotRecord else .ok none
  | .list items => do if ← listHas key items then .error .listNotRecord else .ok none
  | v => .error (.notContainer v)

/-- The value of the first of the keys that has one other than `null`. -/
def pick (wire : Value) : List String → Except Fault Value
  | [] => .ok .null
  | key :: rest => do
    match ← lookup wire key with
    | none | some .null => pick wire rest
    | some v => .ok v

/-- The text of a value that is wanted as a keyword; what counts as false gives the empty text. -/
def keyword (v : Value) : Except Fault String := do
  return lowercase (strip (if ← v.truth then v.text else ""))

/-- The column that a value names, if it is not blank. -/
def name? : Value → Option String
  | .null => none
  | v => if strip v.text = "" then none else some (strip v.text)

/-- The columns that a value names: one, or those of a list or of the keys of a record. -/
def names (v : Value) : Except Fault (List String) := do
  if ← v.truth then
    match v with
    | .str s => return [Value.str s].filterMap name?
    | v => return (← v.members).filterMap name?
  else return []

/-- The identifier that a value stands for: none, or an integer. -/
def datasetId : Value → Except Fault Value
  | .null => .ok .null
  | .missing => .error .undecidedTruth
  | .bool b => .ok (.int b.toNat)
  | .int i => .ok (.int i)
  | .float x =>
    match x.truncate? with
    | some i => .ok (.int i)
    | none =>
      .error (if x.isNaN then .rejected (.datasetIdNotInteger (.float x)) else .infiniteInteger)
  | .str s =>
    if s = "" then .ok .null
    else
      match parseInteger s with
      | some i => .ok (.int i)
      | none => .error (.rejected (.datasetIdNotInteger (.str s)))
  | v => .error (.rejected (.datasetIdNotInteger v))

/-- The predicate of the filter at position `index`, or nothing if it has no column. -/
def predicate? (index : Nat) (filter : Value) : Except Fault (Option Predicate) :=
  match filter with
  | .record _ =>
    match name? (filter.field "column") with
    | none => .ok none
    | some column => do
      let operator := Operator.ofName (← keyword (filter.field "operator"))
      if operator.known then
        let value := match filter.field "value" with
          | .null => ""
          | v => v.text
        return some ⟨column, operator, value⟩
      else throw (.rejected (.unknownOperator index (filter.field "operator")))
  | _ => .error (.rejected (.filterNotRecord index))

/-- The predicates of filters in order, the first of them at position `index`. -/
def predicates (index : Nat) : List Value → Except Fault (List Predicate)
  | [] => .ok []
  | filter :: rest => do
    let first ← predicate? index filter
    let others ← predicates (index + 1) rest
    return first.toList ++ others

/-- The predicates of a value that ought to be a list of filters. -/
def filters (v : Value) : Except Fault (List Predicate) := do
  if ← v.truth then
    match v with
    | .list items => predicates 0 items
    | .str _ | .record _ => throw (.rejected (.filterNotRecord 0))
    | v => throw (.notIterable v)
  else return []

/-- The aggregation that a wire value asks for; none is asked for by a blank name. -/
def aggregation (wire : Value) : Except Fault Aggregation := do
  let given ← keyword (← pick wire ["aggregation"])
  let aggregation := if given = "" then .raw else Aggregation.ofName given
  if aggregation.known then return aggregation
  else throw (.rejected (.unknownAggregation (wire.field "aggregation")))

/-- Whether an aggregation goes with the axes and the columns to group by. -/
def checkShape (aggregation : Aggregation) (xAxis yAxis : Option String) (groupBy : List String) :
    Except Fault Unit :=
  if aggregation = .raw then
    if groupBy.isEmpty then .ok () else .error (.rejected .groupingWithoutAggregation)
  else if xAxis.isNone then .error (.rejected (.axisRequired .x aggregation))
  else if yAxis.isNone then .error (.rejected (.axisRequired .y aggregation))
  else .ok ()

end Wire

/-- The query that a wire value describes. -/
def Query.ofValue (wire : Value) : Except Fault Query := do
  let aggregation ← Wire.aggregation wire
  let xAxis := Wire.name? (← Wire.pick wire ["xAxis", "x_axis"])
  let yAxis := Wire.name? (← Wire.pick wire ["yAxis", "y_axis"])
  let groupBy ← Wire.names (← Wire.pick wire ["groupBy", "group_by"])
  let filters ← Wire.filters (← Wire.pick wire ["filters"])
  Wire.checkShape aggregation xAxis yAxis groupBy
  let id ← Wire.datasetId (← Wire.pick wire ["datasetId", "dataset_id"])
  return ⟨id, xAxis, yAxis, aggregation, groupBy, filters⟩

/-- A query in normal form: a query put together by hand, checked like one from the wire. -/
def Query.normalize (q : Query) : Except Fault Query := Query.ofValue q.toValue

end Tabulate
