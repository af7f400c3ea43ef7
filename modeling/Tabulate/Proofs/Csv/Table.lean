import Mathlib.Data.List.Forall2
import Tabulate.Csv.Table
import Tabulate.Proofs.Csv.Framing
import Tabulate.Scalar

/-!
# Reading tables

The text of a table of rows is read back as the columns and one record for each row, with one field
for each column. `fieldText` is that field; `IsField` says what it is by the kind of cell and the
kind of column.
-/

namespace Tabulate.Csv

/-! ### Kinds of cells and columns -/

section Cells

variable {rows : List Row} {row : Row} {column : String} {v : Value} {i : Int}

theorem present?_eq_some :
    present? row column = some v ↔ row.get? column = some v ∧ v ≠ .null ∧ v ≠ .float .nan := by
  unfold present?
  split
  · rename_i get
    simp [get]
  · rename_i get
    simp only [get, Option.some.injEq, reduceCtorEq, false_iff]
    rintro ⟨rfl, null, -⟩
    exact null rfl
  · rename_i get
    simp only [get, Option.some.injEq, reduceCtorEq, false_iff]
    rintro ⟨rfl, -, nan⟩
    exact nan rfl
  · rename_i w null nan get
    simp only [get, Option.some.injEq]
    constructor
    · rintro rfl
      exact ⟨rfl, by rintro rfl; exact null rfl, by rintro rfl; exact nan rfl⟩
    · rintro ⟨rfl, -⟩
      rfl

theorem present?_eq_int :
    present? row column = some (.int i) ↔ row.get? column = some (.int i) := by
  simp [present?_eq_some]

/-- The values of a column are those of its cells that are no gaps. -/
theorem mem_values :
    v ∈ (rows.map (present? · column)).filterMap id ↔
      ∃ row ∈ rows, present? row column = some v := by
  simp

theorem mem_integers {values : List Value} : i ∈ integers values ↔ .int i ∈ values := by
  unfold integers
  rw [List.mem_filterMap]
  constructor
  · rintro ⟨v, mem, found⟩
    split at found
    · cases found
      exact mem
    · cases found
  · intro mem
    exact ⟨.int i, mem, rfl⟩

theorem isInt_iff : isInt v ↔ ∃ i, v = .int i := by
  cases v <;> simp [isInt]

theorem isNumber_iff : isNumber v ↔ (∃ i, v = .int i) ∨ ∃ x, v = .float x := by
  cases v <;> simp [isNumber]

end Cells

/-- A column of numbers alone, not all of whose cells are integers, and whose integers all fit in
sixty-four bits, with or without a sign. -/
structure FloatColumn (rows : List Row) (column : String) : Prop where
  numbers : ∀ row ∈ rows, ∀ v, row.get? column = some v →
    v = .null ∨ (∃ i, v = .int i) ∨ ∃ x, v = .float x
  mixed : ∃ row ∈ rows, ∀ i, row.get? column ≠ some (.int i)
  fits : (∀ row ∈ rows, ∀ i, row.get? column = some (.int i) → -2 ^ 63 ≤ i ∧ i < 2 ^ 63) ∨
    ∀ row ∈ rows, ∀ i, row.get? column = some (.int i) → 0 ≤ i ∧ i < 2 ^ 64

section Columns

variable {rows : List Row} {column : String}

theorem all_isNumber_iff :
    ((rows.map (present? · column)).filterMap id).all isNumber ↔
      ∀ row ∈ rows, ∀ v, row.get? column = some v →
        v = .null ∨ (∃ i, v = .int i) ∨ ∃ x, v = .float x := by
  rw [List.all_eq_true]
  constructor
  · intro all row mem v get
    by_cases null : v = .null
    · exact .inl null
    by_cases nan : v = .float .nan
    · exact .inr (.inr ⟨.nan, nan⟩)
    · exact .inr (isNumber_iff.1
        (all v (mem_values.2 ⟨row, mem, present?_eq_some.2 ⟨get, null, nan⟩⟩)))
  · intro all v mem
    obtain ⟨row, mem, present⟩ := mem_values.1 mem
    obtain ⟨get, null, -⟩ := present?_eq_some.1 present
    exact isNumber_iff.2 ((all row mem v get).resolve_left null)

/-- A column has a gap or a value that is no integer. -/
theorem any_isNone_or_iff :
    ((rows.map (present? · column)).any Option.isNone ||
        !((rows.map (present? · column)).filterMap id).all isInt) = true ↔
      ∃ row ∈ rows, ∀ i, row.get? column ≠ some (.int i) := by
  rw [← not_iff_not]
  simp only [Bool.or_eq_true, Bool.not_eq_true', not_or, Bool.not_eq_false,
    List.all_eq_true, List.any_eq_true, not_exists, not_and, not_forall, not_not]
  constructor
  · rintro ⟨noGap, ints⟩ row mem
    cases present : present? row column with
    | none => exact absurd (by rw [present]; rfl) (noGap _ (List.mem_map_of_mem mem))
    | some v =>
      obtain ⟨i, rfl⟩ := isInt_iff.1 (ints v (mem_values.2 ⟨row, mem, present⟩))
      exact ⟨i, present?_eq_int.1 present⟩
  · intro ints
    constructor
    · intro cell mem
      obtain ⟨row, row_mem, rfl⟩ := List.mem_map.1 mem
      obtain ⟨i, get⟩ := ints row row_mem
      simp [present?_eq_int.2 get]
    · intro v mem
      obtain ⟨row, mem, present⟩ := mem_values.1 mem
      obtain ⟨i, get⟩ := ints row mem
      rw [present?_eq_int.2 get] at present
      exact isInt_iff.2 ⟨i, (Option.some.inj present).symm⟩

theorem fitWord_iff :
    fitWord (integers ((rows.map (present? · column)).filterMap id)) ↔
      (∀ row ∈ rows, ∀ i, row.get? column = some (.int i) → -2 ^ 63 ≤ i ∧ i < 2 ^ 63) ∨
        ∀ row ∈ rows, ∀ i, row.get? column = some (.int i) → 0 ≤ i ∧ i < 2 ^ 64 := by
  have all (p : Int → Bool) : (integers ((rows.map (present? · column)).filterMap id)).all p ↔
      ∀ row ∈ rows, ∀ i, row.get? column = some (.int i) → p i := by
    rw [List.all_eq_true]
    constructor
    · intro all row mem i get
      exact all i (mem_integers.2 (mem_values.2 ⟨row, mem, present?_eq_int.2 get⟩))
    · intro all i mem
      obtain ⟨row, mem, present⟩ := mem_values.1 (mem_integers.1 mem)
      exact all row mem i (present?_eq_int.1 present)
  simp only [fitWord, Bool.or_eq_true, all, Bool.and_eq_true, decide_eq_true_eq]

theorem writesFloats_iff :
    writesFloats (rows.map (present? · column)) ↔ FloatColumn rows column := by
  rw [writesFloats, Bool.and_eq_true, Bool.and_eq_true, all_isNumber_iff,
    any_isNone_or_iff, fitWord_iff]
  exact ⟨fun ⟨⟨numbers, mixed⟩, fits⟩ => ⟨numbers, mixed, fits⟩,
    fun h => ⟨⟨h.numbers, h.mixed⟩, h.fits⟩⟩

end Columns

/-! ### Fields -/

/-- The columns of a table: the given ones, or the rows' own when none are given. -/
def headings (rows : List Row) (columns : List String) : List String :=
  if columns.isEmpty then inferColumns rows else columns

/-- The field of a row's cell, where `rows` are all rows of the table. -/
def fieldText (rows : List Row) (row : Row) (column : String) : String :=
  cellText (writesFloats (rows.map (present? · column))) (present? row column)

/-- What the field of a row's cell is: a text itself, nothing for an absent cell, and the text of
any other cell, where an integer in a column of binary numbers is written as the binary number
nearest to it. -/
structure IsField (rows : List Row) (row : Row) (column field : String) : Prop where
  string : ∀ s, row.get? column = some (.str s) → field = s
  absent : (row.cell column).isAbsent → field = ""
  integer : ∀ i, row.get? column = some (.int i) → ¬FloatColumn rows column → field = numeral i
  rounded : ∀ i, row.get? column = some (.int i) → FloatColumn rows column →
    field = (Binary64.ofInt i).text
  other : ∀ v, row.get? column = some v → (row.cell column).isAbsent = false →
    (∀ i, v ≠ .int i) → field = v.text

theorem isAbsent_ofValue {v : Value} :
    (Scalar.ofValue v).isAbsent ↔ v = .null ∨ v = .missing ∨ v = .float .nan := by
  cases v with
  | float x => cases x <;> simp [Scalar.ofValue, Scalar.isAbsent]
  | _ => simp [Scalar.ofValue, Scalar.isAbsent]

/-- A cell that is absent is a gap of its column or a missing value. -/
theorem present?_of_isAbsent {row : Row} {column : String} (absent : (row.cell column).isAbsent) :
    present? row column = none ∨ present? row column = some .missing := by
  cases get : row.get? column with
  | none => simp [present?, get]
  | some v =>
    rw [Row.cell, get] at absent
    rcases isAbsent_ofValue.1 absent with rfl | rfl | rfl <;> simp [present?, get]

theorem present?_of_not_isAbsent {row : Row} {column : String} {v : Value}
    (get : row.get? column = some v) (present : (row.cell column).isAbsent = false) :
    present? row column = some v ∧ v ≠ .missing := by
  rw [Row.cell, get, ← Bool.not_eq_true, isAbsent_ofValue, not_or, not_or] at present
  exact ⟨present?_eq_some.2 ⟨get, present.1, present.2.2⟩, present.2.1⟩

theorem cellText_int (floats : Bool) (i : Int) :
    cellText floats (some (.int i)) = if floats then (Binary64.ofInt i).text else numeral i := rfl

theorem cellText_of_not_int {floats : Bool} {v : Value} (missing : v ≠ .missing)
    (int : ∀ i, v ≠ .int i) : cellText floats (some v) = v.text := by
  cases v with
  | missing => exact absurd rfl missing
  | int i => exact absurd rfl (int i)
  | _ => rfl

theorem isField_fieldText (rows : List Row) (row : Row) (column : String) :
    IsField rows row column (fieldText rows row column) where
  string s get := by
    have present : present? row column = some (.str s) := by simp [present?_eq_some, get]
    rw [fieldText, present]
    rfl
  absent absent := by
    rcases present?_of_isAbsent absent with gap | missing
    · rw [fieldText, gap]
      rfl
    · rw [fieldText, missing]
      rfl
  integer i get column := by
    rw [fieldText, present?_eq_int.2 get, cellText_int, if_neg (mt writesFloats_iff.1 column)]
  rounded i get column := by
    rw [fieldText, present?_eq_int.2 get, cellText_int, if_pos (writesFloats_iff.2 column)]
  other v get present int := by
    obtain ⟨present, missing⟩ := present?_of_not_isAbsent get present
    rw [fieldText, present, cellText_of_not_int missing int]

/-! ### Tables -/

/-- The records of columns that each have a field for every row. -/
theorem transpose_map (field : Row → String → String) (rows : List Row) (columns : List String) :
    transpose rows (columns.map fun column => rows.map (field · column)) =
      rows.map fun row => columns.map (field row) := by
  induction rows with
  | nil => rfl
  | cons row rest ih =>
    rw [transpose, List.map_map, List.map_map, List.map_cons]
    exact congrArg _ ih

/-- The text of a table is read as its columns and a record of fields for each row. -/
theorem read_table_fieldText (rows : List Row) (columns : List String) :
    read (table rows columns) =
      some (headings rows columns :: rows.map fun row =>
        (headings rows columns).map (fieldText rows row)) := by
  have texts : columnTexts rows = fun column => rows.map (fieldText rows · column) := by
    funext column
    rw [columnTexts, List.map_map]
    rfl
  have written : table rows columns =
      write (headings rows columns ::
        transpose rows ((headings rows columns).map (columnTexts rows))) := rfl
  rw [written, read_write, texts, transpose_map]

/-- What is known of the field of every cell is known of the fields that are read, one record for
each row and in it one field for each column. -/
theorem exists_records {rows : List Row} {Field : Row → String → String → Prop}
    (known : ∀ row ∈ rows, ∀ column, Field row column (fieldText rows row column))
    (columns : List String) :
    ∃ records, read (table rows columns) = some (headings rows columns :: records) ∧
      List.Forall₂ (fun row record => List.Forall₂ (Field row) (headings rows columns) record)
        rows records := by
  refine ⟨_, read_table_fieldText rows columns, ?_⟩
  rw [List.forall₂_map_right_iff, List.forall₂_same]
  intro row mem
  rw [List.forall₂_map_right_iff, List.forall₂_same]
  intro column _
  exact known row mem column

/-- Whatever rows and columns are written, what is read is the columns and one record for each row,
with the fields of its cells in the order of the columns. -/
theorem read_table (rows : List Row) (columns : List String) :
    ∃ records, read (table rows columns) = some (headings rows columns :: records) ∧
      List.Forall₂ (fun row record =>
        List.Forall₂ (IsField rows row) (headings rows columns) record) rows records :=
  exists_records (fun row _ column => isField_fieldText rows row column) columns

example :
    let first : Row := .ofEntries [("a,b", .str "x,\r\"y\"\n"), ("c", .int 1)]
    let second : Row := .ofEntries [("a,b", .null)]
    read (table [first, second] ["c", "a,b", "c"]) =
      some [["c", "a,b", "c"], ["1.0", "x,\r\"y\"\n", "1.0"], ["", "", ""]] := by decide +kernel

end Tabulate.Csv
