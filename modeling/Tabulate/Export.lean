import Tabulate.Text.Alphanumeric
import Tabulate.Value.Access

/-!
# File names of exported charts
-/

namespace Tabulate

/-- A character that may stand in a file name, or an underscore in its place. -/
def fileNameChar (c : Char) : Char :=
  if isAlphanumeric c || c == '-' || c == '_' || c == '.' then c else '_'

/-- The value under a key, or the given text when that counts as false. -/
def fieldOr (wire : Value) (key default : String) : Except Fault Value := do
  return if ← (wire.field key).truth then wire.field key else .str default

/-- What a chart's file is called before characters are replaced: the figure and its two axes for a
query that aggregates, and the dataset's identifier for one that does not or has no y axis. -/
def exportStem (wire : Value) : Except Fault String :=
  match wire with
  | .record _ => do
    let x ← fieldOr wire "xAxis" "rows"
    let y := wire.field "yAxis"
    let aggregation ← fieldOr wire "aggregation" "none"
    let named ← y.truth
    if named && aggregation.text != "none" then
      return aggregation.text ++ "_" ++ y.text ++ "_by_" ++ x.text
    else return "dataset_" ++ (wire.field "datasetId").text
  | v => .error (.noOperation v "get")

/-- The name of the file that the chart of a wire query is exported to. -/
def exportFileName (wire : Value) : Except Fault String := do
  let stem ← exportStem wire
  return String.ofList (stem.toList.map fileNameChar) ++ ".csv"

end Tabulate
