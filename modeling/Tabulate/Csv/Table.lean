import Tabulate.Columns
import Tabulate.Csv.Format

/-!
# Tables of rows

Rows as a table: a header with the columns, then a record for each row. The text of a cell depends
on its column. Where a column holds numbers alone, and among them a binary number or a gap, its
integers are written as binary numbers, as long as all of them fit in sixty-four bits, with or
without a sign. In all other columns a cell is written as it is. A gap is written as nothing.
-/

namespace Tabulate.Csv

/-- The cell of a column, or nothing where the row has a gap: no value, `null` or not-a-number. -/
def present? (row : Row) (column : String) : Option Value :=
  match row.get? column with
  | none | some .null | some (.float .nan) => none
  | some v => some v

/-- The integers among values. -/
def integers (values : List Value) : List Int :=
  values.filterMap fun
    | .int i => some i
    | _ => none

/-- Whether the integers all fit in sixty-four bits with a sign, or all without one. -/
def fitWord (is : List Int) : Bool :=
  is.all (fun i => -2 ^ 63 ≤ i && i < 2 ^ 63) || is.all fun i => 0 ≤ i && i < 2 ^ 64

/-- Whether a cell holds a number; truth values do not count. -/
def isNumber : Value → Bool
  | .int _ | .float _ => true
  | _ => false

/-- Whether a cell holds an integer. -/
def isInt : Value → Bool
  | .int _ => true
  | _ => false

/-- Whether a column with the given cells has its integers written as binary numbers. -/
def writesFloats (cells : List (Option Value)) : Bool :=
  let values := cells.filterMap id
  values.all isNumber && (cells.any Option.isNone || !values.all isInt) && fitWord (integers values)

/-- The text of a cell in a column whose integers are written as binary numbers or not. -/
def cellText (floats : Bool) : Option Value → String
  | none | some .missing => ""
  | some (.int i) => if floats then (Binary64.ofInt i).text else numeral i
  | some v => v.text

/-- The texts of a column's cells, one for each row. -/
def columnTexts (rows : List Row) (column : String) : List String :=
  let cells := rows.map (present? · column)
  cells.map (cellText (writesFloats cells))

/-- The records of a table whose columns have the given texts, one for each of `rows`. -/
def transpose (rows : List Row) (columns : List (List String)) : List (List String) :=
  match rows with
  | [] => []
  | _ :: rest => columns.map (·.headD "") :: transpose rest (columns.map List.tail)

/-- The table of rows: the given columns, or the rows' own when none are given. -/
def table (rows : List Row) (columns : List String) : String :=
  let columns := if columns.isEmpty then inferColumns rows else columns
  write (columns :: transpose rows (columns.map (columnTexts rows)))

end Tabulate.Csv
