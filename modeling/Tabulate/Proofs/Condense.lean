import Mathlib.Data.List.Forall2
import Tabulate.Columns
import Tabulate.Proofs.Figure
import Tabulate.Proofs.Grouping
import Tabulate.Proofs.Query.Normal

/-!
# The rows of an aggregating query

An aggregating query makes one row of each group of the rows that satisfy its filters:
`Query.Draws.run_eq_map_firsts` writes them as a map over the first members of the groups. What such
a row holds is said here column by column, also where the axes and the columns to group by coincide.
-/

namespace Tabulate

/-! ### Setting several columns -/

theorem Row.columns_foldl_set (f : String → Value) (names : List String) (row : Row) :
    (names.foldl (fun row column => row.set column (f column)) row).columns =
      names.foldl addColumn row.columns := by
  induction names generalizing row with
  | nil => rfl
  | cons name rest ih => rw [List.foldl_cons, List.foldl_cons, ih, columns_set, addColumn]

theorem Row.get?_foldl_set (f : String → Value) (names : List String) (row : Row)
    (column : String) :
    (names.foldl (fun row column => row.set column (f column)) row).get? column =
      if column ∈ names then some (f column) else row.get? column := by
  induction names generalizing row with
  | nil => simp
  | cons name rest ih =>
    rw [List.foldl_cons, ih, get?_set]
    by_cases later : column ∈ rest
    · simp [later]
    · by_cases now : column = name
      · simp [now]
      · simp [later, now]

theorem Row.columns_empty : (Row.empty : Row).columns = [] := rfl

/-- The value that a row shows for a key column is the raw value of a cell that is present. -/
theorem Row.get?_eq_keyValue {row : Row} {column : String} (present : ¬(row.cell column).isAbsent) :
    row.get? column = some (row.keyValue column) := by
  cases held : row.get? column with
  | none => simp [cell, held, Scalar.isAbsent] at present
  | some v => simp [keyValue, present, held]

theorem Row.keyValue_of_absent {row : Row} {column : String} (absent : (row.cell column).isAbsent) :
    row.keyValue column = .str "" := if_pos absent

/-- The cell that a row shows for a key column is the row's own if that is present. -/
theorem Row.ofValue_keyValue {row : Row} {column : String} (present : ¬(row.cell column).isAbsent) :
    Scalar.ofValue (row.keyValue column) = row.cell column := by
  rw [cell, get?_eq_keyValue present]

/-- Its text is that of the row's own cell, present or absent. -/
theorem Row.text_keyValue (row : Row) (column : String) :
    (Scalar.ofValue (row.keyValue column)).text = (row.cell column).text := by
  by_cases absent : (row.cell column).isAbsent
  · have empty : row.cell column = .absent := by
      cases h : row.cell column <;> first | rfl | simp [h, Scalar.isAbsent] at absent
    rw [keyValue_of_absent absent, empty]
    rfl
  · rw [ofValue_keyValue absent]

theorem Row.isAbsent_keyValue (row : Row) (column : String) :
    (Scalar.ofValue (row.keyValue column)).isAbsent = false := by
  by_cases absent : (row.cell column).isAbsent
  · rw [keyValue_of_absent absent]
    rfl
  · rw [ofValue_keyValue absent]
    exact Bool.eq_false_iff.2 absent

/-- Rows of equal key have equal texts in the key columns. -/
theorem Row.text_eq_of_key_eq {columns : List String} {r s : Row}
    (h : r.key columns = s.key columns) {column : String} (keyed : column ∈ columns) :
    (r.cell column).text = (s.cell column).text :=
  List.map_inj_left.1 h column keyed

namespace Query

/-! ### The row of a group -/

section GroupRow

variable {q : Query} {x y first column : String} {figure : Binary64 → List Binary64 → Value}
  {g : Group (List String) Row}

/-- The columns of a group's row: the x axis, the columns to group by and the y axis, each in its
first place. -/
theorem columns_groupRow :
    (q.groupRow ⟨x, y, id⟩ first figure g).columns =
      (x :: q.groupBy ++ [y]).foldl addColumn [] := by
  simp only [groupRow, id, Row.columns_set, Row.columns_foldl_set,
    Row.columns_empty, List.cons_append, List.foldl_cons, List.foldl_append,
    List.foldl_nil, addColumn]
  rfl

theorem get?_groupRow_yAxis :
    (q.groupRow ⟨x, y, id⟩ first figure g).get? y =
      some (figure (g.first.cell? q.yAxis).coerce
        (g.others.map fun row => (row.cell? q.yAxis).coerce)) := by
  simp [groupRow, Row.get?_set]

theorem get?_groupRow (other : column ≠ y) :
    (q.groupRow ⟨x, y, id⟩ first figure g).get? column =
      if column ∈ q.groupBy then some (g.first.keyValue column)
      else if column = x then some (g.first.keyValue first) else none := by
  simp only [groupRow, id, Row.get?_set, Row.get?_foldl_set, if_neg other]
  rfl

theorem get?_groupRow_groupBy (grouped : column ∈ q.groupBy) (other : column ≠ y) :
    (q.groupRow ⟨x, y, id⟩ first figure g).get? column = some (g.first.keyValue column) := by
  rw [get?_groupRow other, if_pos grouped]

theorem get?_groupRow_xAxis (ungrouped : x ∉ q.groupBy) (other : x ≠ y) :
    (q.groupRow ⟨x, y, id⟩ first figure g).get? x = some (g.first.keyValue first) := by
  rw [get?_groupRow other, if_neg ungrouped, if_pos rfl]

end GroupRow

/-! ### What an aggregating query has -/

/-- The axes of an aggregating query, and the figure that it makes of the numbers of a group. -/
structure Draws (q : Query) (x y : String) (figure : Binary64 → List Binary64 → Value) : Prop where
  condenses : q.aggregation ≠ .raw
  xAxis : q.xAxis = some x
  yAxis : q.yAxis = some y
  keyColumns : q.keyColumns = q.groupBy.headD x :: q.groupBy.tail
  figure? : q.aggregation.figure? = some figure

/-- An aggregating query in normal form has both axes and a figure. -/
theorem Normal.draws {q : Query} (normal : q.Normal) (condenses : q.aggregation ≠ .raw) :
    ∃ x y figure, q.Draws x y figure ∧
      ∀ z zs, (∀ w ∈ z :: zs, w.isFinite) → q.aggregation.IsFigure (z :: zs) (figure z zs) := by
  obtain ⟨hasX, hasY⟩ := normal.axes condenses
  obtain ⟨x, xAxis⟩ := Option.isSome_iff_exists.1 hasX
  obtain ⟨y, yAxis⟩ := Option.isSome_iff_exists.1 hasY
  obtain ⟨figure, figure?, right⟩ := Aggregation.figure?_eq_some normal.aggregation condenses
  have keyColumns : q.keyColumns = q.groupBy.headD x :: q.groupBy.tail := by
    cases grouped : q.groupBy with
    | nil => simp [Query.keyColumns, grouped, xAxis, (normal.xAxis x xAxis).1]
    | cons first others => simp [Query.keyColumns, grouped]
  exact ⟨x, y, figure, ⟨condenses, xAxis, yAxis, keyColumns, figure?⟩, right⟩

/-- The row that a query makes of the group around a first member. -/
def rowOf (q : Query) (x y : String) (figure : Binary64 → List Binary64 → Value) (rows : List Row)
    (m : Row) : Row :=
  q.groupRow ⟨x, y, id⟩ (q.groupBy.headD x) figure (Group.around (Row.key q.keyColumns) rows m)

/-- An aggregating query makes one row of each group, however its columns are named, and never
fails. -/
theorem Draws.condense_eq {q : Query} {x y : String} {figure : Binary64 → List Binary64 → Value}
    (draws : q.Draws x y figure) {κ : Type} [DecidableEq κ] (labels : Labels κ) (rows : List Row) :
    q.condense labels rows = .ok ((Group.ofList (Row.key q.keyColumns) rows).map
      (q.groupRow labels (q.groupBy.headD x) figure)) := by
  rw [condense, draws.keyColumns, draws.figure?]
  cases rows <;> rfl

theorem Draws.run_eq_map_ofList {q : Query} {x y : String}
    {figure : Binary64 → List Binary64 → Value} (draws : q.Draws x y figure) (rows : List Row) :
    q.run rows = .ok ((Group.ofList (Row.key q.keyColumns) (filterRows rows q.filters)).map
      (q.groupRow ⟨x, y, id⟩ (q.groupBy.headD x) figure)) := by
  have grouped : q.isRaw = false := by simp [isRaw, draws.condenses]
  rw [← draws.condense_eq]
  simp [run, grouped, draws.xAxis, draws.yAxis]

theorem Draws.run_eq_map_firsts {q : Query} {x y : String}
    {figure : Binary64 → List Binary64 → Value} (draws : q.Draws x y figure) (rows : List Row) :
    q.run rows = .ok ((Group.firsts (Row.key q.keyColumns) (filterRows rows q.filters)).map
      (q.rowOf x y figure (filterRows rows q.filters))) := by
  rw [draws.run_eq_map_ofList, Group.ofList_eq_map_firsts, List.map_map]
  rfl

/-- What a query that was accepted makes of rows. -/
theorem evaluate_of_accepted {wire : Value} {q : Query} (accepted : ofValue wire = .ok q)
    (rows : List Row) (id : Value) : evaluate (some rows) wire id = q.run rows := by
  rw [evaluate, accepted]
  rfl

section KeyCells

variable {q : Query} {x y column : String} {figure : Binary64 → List Binary64 → Value}

/-- In a key column the row of a group holds the value that its first member has there. -/
theorem Draws.get?_rowOf (draws : q.Draws x y figure) (keyed : column ∈ q.keyColumns)
    (other : column ≠ y) (rows : List Row) (m : Row) :
    (q.rowOf x y figure rows m).get? column = some (m.keyValue column) := by
  rw [draws.keyColumns] at keyed
  cases grouped : q.groupBy with
  | nil =>
    rw [grouped] at keyed
    obtain rfl : column = x := List.mem_singleton.1 keyed
    rw [rowOf, get?_groupRow_xAxis (by simp [grouped]) other, grouped]
    rfl
  | cons first rest =>
    rw [grouped] at keyed
    refine get?_groupRow_groupBy ?_ other
    rw [grouped]
    exact keyed

theorem Draws.cell_rowOf (draws : q.Draws x y figure) (keyed : column ∈ q.keyColumns)
    (other : column ≠ y) (rows : List Row) (m : Row) :
    (q.rowOf x y figure rows m).cell column = Scalar.ofValue (m.keyValue column) :=
  Row.cell_of_get? (draws.get?_rowOf keyed other rows m)

end KeyCells

/-! ### One row for each key -/

/-- `row` is what a query with the given axes shows for the group with the given members. -/
structure Shows (q : Query) (x y : String) (first : Row) (others : List Row)
    (row : Row) : Prop where
  /-- The columns are the x axis, the columns to group by and the y axis, each in its first
  place. -/
  columns : row.columns = (x :: q.groupBy ++ [y]).foldl addColumn []
  /-- The y axis holds the figure of the members' numbers. -/
  yAxis : ∃ v, row.get? y = some v ∧
    q.aggregation.IsFigure ((first :: others).map fun m => (m.cell y).coerce) v
  /-- A column to group by holds the first member's value. -/
  groupBy : ∀ column ∈ q.groupBy, column ≠ y → row.get? column = some (first.keyValue column)
  /-- The x axis holds the first member's own value if it is a key column, else that of the first
  column to group by. -/
  xAxis : x ≠ y → row.get? x =
    some (first.keyValue (if x ∈ q.groupBy then x else q.groupBy.headD x))

theorem Draws.shows {q : Query} {x y : String} {figure : Binary64 → List Binary64 → Value}
    (draws : q.Draws x y figure)
    (right : ∀ z zs, (∀ w ∈ z :: zs, w.isFinite) → q.aggregation.IsFigure (z :: zs) (figure z zs))
    (g : Group (List String) Row) :
    q.Shows x y g.first g.others (q.groupRow ⟨x, y, id⟩ (q.groupBy.headD x) figure g) where
  columns := columns_groupRow
  yAxis := by
    refine ⟨_, get?_groupRow_yAxis, ?_⟩
    simp only [draws.yAxis, Row.cell?]
    apply right _ _
    intro w hw
    rw [← List.map_cons (f := fun row : Row => (row.cell y).coerce)] at hw
    exact Row.isFinite_of_mem_coerce hw
  groupBy := fun _ grouped other => get?_groupRow_groupBy grouped other
  xAxis := by
    intro other
    by_cases grouped : x ∈ q.groupBy
    · rw [if_pos grouped]
      exact get?_groupRow_groupBy grouped other
    · rw [if_neg grouped]
      exact get?_groupRow_xAxis grouped other

/-- The figure of a group's row is made of all rows with the key of its first member. -/
theorem Draws.yAxis_rowOf {q : Query} {x y : String} {figure : Binary64 → List Binary64 → Value}
    (draws : q.Draws x y figure)
    (right : ∀ z zs, (∀ w ∈ z :: zs, w.isFinite) → q.aggregation.IsFigure (z :: zs) (figure z zs))
    {rows : List Row} {m : Row} (h : m ∈ Group.firsts (Row.key q.keyColumns) rows) :
    ∃ v, (q.rowOf x y figure rows m).get? y = some v ∧
      q.aggregation.IsFigure ((rows.filter (·.key q.keyColumns = m.key q.keyColumns)).map
        fun m => (m.cell y).coerce) v := by
  rw [Group.filter_of_mem_firsts h]
  exact (draws.shows right (Group.around (Row.key q.keyColumns) rows m)).yAxis

end Query

end Tabulate
