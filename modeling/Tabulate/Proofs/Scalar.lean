import Tabulate.Filter
import Tabulate.Proofs.Number.Reading

/-!
# Cells and their texts

The text of a number denotes the number, so a present cell is determined by its text, whatever value
it holds: `Scalar.determined_by_text`. The number of a cell is finite: an infinity has none, nor has
an integer that is too large for a binary number.
-/

namespace Tabulate

/-! ### Finite numbers -/

theorem isFinite_of_guard {x y : Binary64} (h : (if x.isFinite then some x else none) = some y) :
    y.isFinite := by
  split at h
  · rename_i finite
    exact Option.some.inj h ▸ finite
  · cases h

theorem isFinite_of_parseNumber {s : String} {x : Binary64} (h : parseNumber s = some x) :
    x.isFinite := by
  unfold parseNumber at h
  split at h
  · exact isFinite_of_guard h
  · cases h

/-- The number of a value's scalar is finite. -/
theorem Scalar.isFinite_of_number? {v : Value} {x : Binary64} (h : (ofValue v).number? = some x) :
    x.isFinite := by
  cases v with
  | int i =>
    rw [ofValue, number?_int] at h
    exact isFinite_of_guard h
  | float y =>
    cases y with
    | nan => cases h
    | infinite negative => exact isFinite_of_parseNumber h
    | finite negative units representable => exact Option.some.inj h ▸ rfl
  | null => cases h
  | missing => cases h
  | _ => exact isFinite_of_parseNumber h

theorem Scalar.isFinite_coerce (v : Value) : (ofValue v).coerce.isFinite := by
  unfold coerce
  cases h : (ofValue v).number? with
  | none => rfl
  | some x => exact isFinite_of_number? h

/-- The number of a cell is finite. -/
theorem Row.isFinite_of_number? {row : Row} {column : String} {x : Binary64}
    (h : (row.cell column).number? = some x) : x.isFinite := by
  unfold cell at h
  cases held : row.get? column with
  | none =>
    rw [held] at h
    cases h
  | some v =>
    rw [held] at h
    exact Scalar.isFinite_of_number? h

theorem Row.present_of_number? {row : Row} {column : String} {x : Binary64}
    (h : (row.cell column).number? = some x) : (row.cell column).isAbsent = false := by
  cases c : row.cell column with
  | absent =>
    rw [c] at h
    cases h
  | _ => rfl

theorem Row.cell_of_get? {row : Row} {column : String} {v : Value} (h : row.get? column = some v) :
    row.cell column = .ofValue v := by
  rw [cell, h]

/-- A finite number in a cell is read as itself. -/
theorem Row.cell_of_float {row : Row} {column : String} {x : Binary64} (finite : x.isFinite)
    (h : row.get? column = some (.float x)) : row.cell column = .float x := by
  rw [cell_of_get? h]
  cases x <;> first | rfl | cases finite

/-- The number of a cell is finite, whatever the cell holds. -/
theorem Row.isFinite_coerce (row : Row) (column : String) : (row.cell column).coerce.isFinite := by
  unfold cell
  cases row.get? column with
  | none => rfl
  | some v => exact Scalar.isFinite_coerce v

theorem Row.isFinite_of_mem_coerce {rows : List Row} {column : String} {x : Binary64}
    (h : x ∈ rows.map fun row => (row.cell column).coerce) : x.isFinite := by
  obtain ⟨row, -, rfl⟩ := List.mem_map.1 h
  exact row.isFinite_coerce column

/-! ### Cells of equal text -/

/-- A present cell is a number just if its text denotes one, and then it is that number. -/
theorem Scalar.number?_eq_parseNumber_text {v : Value} (present : (ofValue v).isAbsent = false) :
    (ofValue v).number? = parseNumber (ofValue v).text := by
  cases v with
  | null => cases present
  | missing => cases present
  | int i => exact (number?_int i).trans (parseNumber_numeral i).symm
  | float x =>
    cases x with
    | nan => cases present
    | infinite negative => rfl
    | finite negative units representable => exact (parseNumber_text rfl).symm
  | bool b => rfl
  | str s => rfl
  | list items => rfl
  | record fields => rfl

theorem Row.number?_cell {row : Row} {column : String}
    (present : (row.cell column).isAbsent = false) :
    (row.cell column).number? = parseNumber (row.cell column).text := by
  unfold cell at present ⊢
  cases held : row.get? column with
  | none => simp [held, Scalar.isAbsent] at present
  | some v =>
    rw [held] at present
    exact Scalar.number?_eq_parseNumber_text present

/-- The outcome of a comparison is the same for cells of equal text and number. -/
theorem Operator.holds_congr {c d : Scalar} (text : c.text = d.text)
    (number : c.number? = d.number?) (o : Operator) (value : String) :
    o.holds c value = o.holds d value := by
  have equals : c.equals value = d.equals value := by
    rw [Scalar.equals, Scalar.equals, text, number]
  have inOrder (order : Binary64 → Binary64 → Bool) :
      c.inOrder order value = d.inOrder order value := by
    rw [Scalar.inOrder, Scalar.inOrder, number]
  cases o <;> simp only [holds, equals, inOrder, text]

/-- Rows whose cells are present and have the same text satisfy the same predicates. -/
theorem Predicate.matches_congr {p : Predicate} {r s : Row}
    (hr : (r.cell p.column).isAbsent = false) (hs : (s.cell p.column).isAbsent = false)
    (text : (r.cell p.column).text = (s.cell p.column).text) : p.matches r = p.matches s := by
  have number : (r.cell p.column).number? = (s.cell p.column).number? := by
    rw [Row.number?_cell hr, Row.number?_cell hs, text]
  rw [Predicate.matches, Predicate.matches, hr, hs, Operator.holds_congr text number]

/-! ### Comparison with a value -/

namespace Scalar

variable {c : Scalar} {value : String} {target : Binary64} {order : Binary64 → Binary64 → Bool}

theorem inOrder_iff (number : parseNumber value = some target) :
    c.inOrder order value ↔ ∃ x, c.number? = some x ∧ order x target := by
  rw [inOrder, number]
  cases c.number? <;> simp

/-- A value that is no number is in no order with a cell. -/
theorem inOrder_eq_false (text : parseNumber value = none) : c.inOrder order value = false := by
  rw [inOrder, text]

/-- A cell whose text denotes its number equals the text of a number as a number, or not at all. -/
theorem equals_iff (denoted : c.number? = parseNumber c.text)
    (number : parseNumber value = some target) :
    c.equals value ↔ ∃ x, c.number? = some x ∧ x.numEq target := by
  rw [equals, number]
  cases numeric : c.number? with
  | some x => simp
  | none =>
    have other : c.text ≠ value := by
      rintro rfl
      rw [← denoted, numeric] at number
      cases number
    simp [other]

theorem equals_iff_text (text : parseNumber value = none) : c.equals value ↔ c.text = value := by
  rw [equals, text]
  exact beq_iff_eq

end Scalar

/-- A finite number equals itself. -/
theorem Binary64.numEq_self {x : Binary64} (finite : x.isFinite) : x.numEq x := by
  cases x with
  | nan => cases finite
  | infinite negative => cases finite
  | finite negative units representable => exact beq_self_eq_true _

/-- A cell whose text denotes its number equals its own text. -/
theorem Scalar.equals_text {c : Scalar} (denoted : c.number? = parseNumber c.text) :
    c.equals c.text := by
  cases number : parseNumber c.text with
  | none => exact (equals_iff_text number).2 rfl
  | some x =>
    have same : x.numEq x := Binary64.numEq_self (isFinite_of_parseNumber number)
    exact (equals_iff denoted number).2 ⟨x, denoted.trans number, same⟩

/-- The number of a present cell is determined by its text, and so is the number that it counts as,
which is finite. A present cell equals its own text. -/
theorem Scalar.determined_by_text :
    (∀ v w : Value, (ofValue v).isAbsent = false → (ofValue w).isAbsent = false →
      (ofValue v).text = (ofValue w).text →
      (ofValue v).number? = (ofValue w).number? ∧ (ofValue v).coerce = (ofValue w).coerce) ∧
    (∀ v : Value, ∀ x ∈ (ofValue v).number?, x.isFinite) ∧
    (∀ v : Value, (ofValue v).coerce.isFinite) ∧
    ∀ (row : Row) (column : String), (row.cell column).isAbsent = false →
      (Predicate.mk column .eq (row.cell column).text).matches row := by
  refine ⟨fun v w hv hw same => ?_, fun v x => isFinite_of_number?, isFinite_coerce,
    fun row column present => ?_⟩
  · have number : (ofValue v).number? = (ofValue w).number? := by
      rw [number?_eq_parseNumber_text hv, number?_eq_parseNumber_text hw, same]
    exact ⟨number, by rw [coerce, coerce, number]⟩
  · have equal : (row.cell column).equals (row.cell column).text :=
      equals_text (Row.number?_cell present)
    simp only [Predicate.matches, present, Operator.holds, equal, Bool.not_false, Bool.and_self]

/-- An integer that is rounded and its numeral, and a negative zero and its text. -/
theorem Scalar.determined_by_text_rounded :
    let v : Value := .int (2 ^ 53 + 1)
    let w : Value := .str "9007199254740993"
    let row := Row.ofEntries [("k", .float (.signedZero true))]
    (ofValue v).isAbsent = false ∧ (ofValue w).isAbsent = false ∧
      (ofValue v).text = (ofValue w).text ∧
      (ofValue v).number? = some (.ofInt (2 ^ 53)) ∧ (ofValue w).number? = some (.ofInt (2 ^ 53)) ∧
      (Binary64.ofInt (2 ^ 53)).isFinite ∧ (row.cell "k").isAbsent = false ∧
      (Predicate.mk "k" .eq "-0.0").matches row := by
  intro v w row
  have same : (ofValue v).text = (ofValue w).text := by decide +kernel
  have number : (ofValue v).number? = some (.ofInt (2 ^ 53)) := by decide +kernel
  obtain ⟨determined, finite, -, reflexive⟩ := determined_by_text
  have equal := determined v w rfl rfl same
  have text : (row.cell "k").text = "-0.0" := by decide +kernel
  exact ⟨rfl, rfl, same, number, equal.1.symm.trans number, finite v _ number, rfl,
    text ▸ reflexive row "k" rfl⟩

end Tabulate
