import Tabulate.Row

/-!
# The columns of rows

The columns of a list of rows are all columns that some row has a value for, each once, in the order
in which they first occur.
-/

namespace Tabulate

/-- `columns` with one more column at the end, unless it is there already. -/
def addColumn (columns : List String) (column : String) : List String :=
  if column ∈ columns then columns else columns ++ [column]

/-- The columns of rows, in order of first occurrence. -/
def inferColumns (rows : List Row) : List String :=
  rows.foldl (fun columns row => row.columns.foldl addColumn columns) []

/-- Adding a column keeps the columns distinct. -/
theorem nodup_addColumn {columns : List String} (h : columns.Nodup) (column : String) :
    (addColumn columns column).Nodup := by
  unfold addColumn
  split
  · exact h
  · rename_i fresh
    exact List.nodup_append.2 ⟨h, by simp, fun a ha b hb => by
      rintro rfl
      exact fresh (List.mem_singleton.1 hb ▸ ha)⟩

end Tabulate
