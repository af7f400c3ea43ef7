import Mathlib.Algebra.Order.Ring.Abs
import Tabulate.Proofs.Csv.Table
import Tabulate.Proofs.Number.Integers

/-!
# Numbers in tables

Where a cell holds a finite number, the field that is read in its place parses back to that number,
or to the binary number nearest to an integer. The field of an integer even denotes the integer,
with one exception: in a column of binary numbers it is rounded, which takes an integer of more than
`2 ^ 53`. Whether the column is one depends on the other rows, and one gap is enough.
-/

namespace Tabulate.Csv

variable {rows : List Row} {row : Row} {column field : String}

/-- What is left of a number in its field. -/
structure KeepsNumber (rows : List Row) (row : Row) (column field : String) : Prop where
  float : ∀ x, row.get? column = some (.float x) → x.isFinite → parseNumber field = some x
  nearest : ∀ i, row.get? column = some (.int i) →
    parseNumber field = if (Binary64.ofInt i).isFinite then some (.ofInt i) else none
  integer : ∀ i, row.get? column = some (.int i) → (FloatColumn rows column → i.natAbs ≤ 2 ^ 53) →
    Denotes field i

/-- The integers of a column of binary numbers have at most sixty-four bits. -/
theorem FloatColumn.natAbs_le (h : FloatColumn rows column) (mem : row ∈ rows) {i : Int}
    (get : row.get? column = some (.int i)) : i.natAbs ≤ 2 ^ 64 := by
  rcases h.fits with signed | unsigned
  · have := signed row mem i get
    omega
  · have := unsigned row mem i get
    omega

theorem IsField.keepsNumber (h : IsField rows row column field) (mem : row ∈ rows) :
    KeepsNumber rows row column field where
  float x get finite := by
    have present : (row.cell column).isAbsent = false := by
      rw [Row.cell, get]
      cases x with
      | finite => rfl
      | _ => cases finite
    rw [h.other _ get present (by simp)]
    exact parseNumber_text finite
  nearest i get := by
    by_cases floats : FloatColumn rows column
    · have finite : (Binary64.ofInt i).isFinite :=
        Binary64.isFinite_ofInt (floats.natAbs_le mem get)
      rw [h.rounded i get floats, parseNumber_text finite, if_pos finite]
    · rw [h.integer i get floats, parseNumber_numeral]
  integer i get small := by
    by_cases floats : FloatColumn rows column
    · rw [h.rounded i get floats]
      exact denotes_text_ofInt (small floats)
    · rw [h.integer i get floats]
      exact denotes_numeral i

/-- Whatever rows and columns are written, the numbers that are read are those of the cells, but for
rounding to the nearest binary number where a column of binary numbers has an integer of more than
`2 ^ 53`. -/
theorem read_table_numbers (rows : List Row) (columns : List String) :
    ∃ records, read (table rows columns) = some (headings rows columns :: records) ∧
      List.Forall₂
        (fun row record => List.Forall₂ (KeepsNumber rows row) (headings rows columns) record)
        rows records :=
  exists_records (fun row mem column => (isField_fieldText rows row column).keepsNumber mem) columns

/-- A gap in its column makes an integer of more than `2 ^ 53` another one. -/
theorem read_table_alters_integer :
    let first : Row := .ofEntries [("id", .int 9007199254740993)]
    let second : Row := .ofEntries [("note", .str "x")]
    read (table [first, second] []) = some [["id", "note"], ["9007199254740992.0", ""], ["", "x"]] ∧
      first.get? "id" = some (.int 9007199254740993) ∧
      ¬Denotes "9007199254740992.0" 9007199254740993 := by
  refine ⟨by decide +kernel, by decide +kernel, ?_⟩
  intro altered
  have kept : Denotes "9007199254740992.0" 9007199254740992 :=
    ⟨false, ⟨90071992547409920, -1⟩, 9007199254740992, by decide +kernel, by decide, rfl⟩
  exact absurd (kept.unique altered) (by decide)

end Tabulate.Csv
