import Mathlib.Data.List.Forall2
import Tabulate.Proofs.Columns
import Tabulate.Proofs.Figure
import Tabulate.Proofs.Query.Normal

/-!
# Rows on axes

A raw query with both axes shows the rows that satisfy its filters, each as it is but for the cells
on its axes. `Row.OnAxes` says so of one row, without setting anything.

To evaluate such a query again on what it shows changes nothing: a row on axes is left as it is, and
it still satisfies the filters. For the latter, filters on the y axis have to compare numbers, since
a number takes the place of each text there: `Query.evaluate_raw_on_axes`.
-/

namespace Tabulate

namespace Row

variable {row shown : Row} {x y column : String}

theorem mem_columns_of_present (present : (row.cell column).isAbsent = false) :
    column ∈ row.columns := by
  by_contra missing
  rw [cell, get?_eq_none missing] at present
  cases present

/-! ### One row -/

/-- `shown` is `row` but for the cells on the axes: on the y axis it has the number of the row's
cell, which is finite, and on the x axis, if that is another column, the empty text in place of an
absent cell. Columns that the row lacks come last, the x axis first. -/
structure OnAxes (x y : String) (row shown : Row) : Prop where
  columns : shown.columns = row.columns ++ (if x = y then [y] else [x, y]).filter (· ∉ row.columns)
  number : (row.cell y).coerce.isFinite
  yAxis : shown.get? y = some (.float (row.cell y).coerce)
  xAxis : x ≠ y → shown.get? x = if (row.cell x).isAbsent then some (.str "") else row.get? x
  others : ∀ column, column ≠ x → column ≠ y → shown.get? column = row.get? column

theorem get?_onAxes (row : Row) (x y column : String) : (row.onAxes x y).get? column =
    if column = y then some (.float (row.cell y).coerce)
    else if column = x ∧ (row.cell x).isAbsent then some (.str "") else row.get? column := by
  rw [onAxes, get?_set]
  by_cases onY : column = y
  · rw [if_pos onY, if_pos onY]
  · rw [if_neg onY, if_neg onY]
    by_cases absent : (row.cell x).isAbsent
    · simp only [absent, if_true, get?_set, and_true]
    · simp only [absent, Bool.false_eq_true, if_false, and_false]

theorem columns_onAxes (row : Row) (x y : String) : (row.onAxes x y).columns =
    row.columns ++ (if x = y then [y] else [x, y]).filter (· ∉ row.columns) := by
  have filled : (if (row.cell x).isAbsent then row.set x (.str "") else row).columns =
      if x ∈ row.columns then row.columns else row.columns ++ [x] := by
    split
    · exact columns_set row x _
    · rename_i present
      rw [if_pos (mem_columns_of_present (Bool.eq_false_iff.2 present))]
  rw [onAxes, columns_set, filled]
  by_cases hasX : x ∈ row.columns
  · by_cases hasY : y ∈ row.columns
    · by_cases same : x = y <;> simp [hasX, hasY, same]
    · have other : x ≠ y := by
        rintro rfl
        exact hasY hasX
      simp [hasX, hasY, other]
  · by_cases same : x = y
    · subst same
      simp [hasX]
    · by_cases hasY : y ∈ row.columns <;> simp [hasX, hasY, same, Ne.symm same]

/-- Putting a row on axes changes just what it has to. -/
theorem onAxes_spec (row : Row) (x y : String) : OnAxes x y row (row.onAxes x y) where
  columns := columns_onAxes row x y
  number := row.isFinite_coerce y
  yAxis := by rw [get?_onAxes, if_pos rfl]
  xAxis := by
    intro other
    rw [get?_onAxes, if_neg other]
    simp only [true_and]
  others := by
    intro column notX notY
    rw [get?_onAxes, if_neg notY, if_neg (fun onX => notX onX.1)]

/-- A number stays what it is when its cell is read again. -/
theorem OnAxes.cell_yAxis (h : OnAxes x y row shown) : shown.cell y = .float (row.cell y).coerce :=
  cell_of_float h.number h.yAxis

/-- Off the y axis present cells stay as they are. -/
theorem OnAxes.cell_of_present (h : OnAxes x y row shown) (notY : column ≠ y)
    (present : (row.cell column).isAbsent = false) : shown.cell column = row.cell column := by
  by_cases onX : column = x
  · subst onX
    have held := h.xAxis notY
    rw [present] at held
    rw [cell, held]
    rfl
  · rw [cell, h.others column onX notY]
    rfl

theorem OnAxes.present_xAxis (h : OnAxes x y row shown) : (shown.cell x).isAbsent = false := by
  by_cases same : x = y
  · subst same
    rw [h.cell_yAxis]
    rfl
  · have held := h.xAxis same
    cases absent : (row.cell x).isAbsent with
    | true =>
      rw [absent] at held
      rw [cell_of_get? held]
      rfl
    | false => rw [h.cell_of_present same absent, absent]

/-- A row that is on axes is left as it is. -/
theorem OnAxes.onAxes_eq (h : OnAxes x y row shown) : shown.onAxes x y = shown := by
  have held : shown.get? y = some (.float (shown.cell y).coerce) := by
    rw [h.yAxis, h.cell_yAxis]
    rfl
  simp only [onAxes, h.present_xAxis, Bool.false_eq_true, if_false]
  exact set_get? held

end Row

/-! ### Filters -/

/-- An operator other than equality, its opposite and containment compares numbers. -/
theorem Operator.exists_order {o : Operator} (h : o ≠ .eq ∧ o ≠ .neq ∧ o ≠ .contains) :
    ∃ order, ∀ (c : Scalar) value, o.holds c value = c.inOrder order value := by
  obtain ⟨notEq, notNeq, notContains⟩ := h
  cases o with
  | eq => exact absurd rfl notEq
  | neq => exact absurd rfl notNeq
  | contains => exact absurd rfl notContains
  | _ => exact ⟨_, fun _ _ => rfl⟩

/-- A cell that is in some order with a value has a number, and the number is in the same order with
it. -/
theorem Scalar.inOrder_coerce {c : Scalar} {order : Binary64 → Binary64 → Bool} {value : String}
    (h : c.inOrder order value) : (Scalar.float c.coerce).inOrder order value := by
  unfold inOrder at h ⊢
  cases number : c.number? with
  | none =>
    rw [number] at h
    split at h <;> simp_all
  | some n =>
    have same : (Scalar.float c.coerce).number? = c.number? := by
      rw [coerce, number]
      rfl
    rwa [same]

/-- A row that satisfies a predicate still does so on axes, if the predicate is on another column
than the y axis or compares numbers. -/
theorem Predicate.matches_of_onAxes {p : Predicate} {x y : String} {row shown : Row}
    (h : Row.OnAxes x y row shown)
    (orders : p.column = y → p.operator ≠ .eq ∧ p.operator ≠ .neq ∧ p.operator ≠ .contains)
    (satisfied : p.matches row) : p.matches shown := by
  rw [Predicate.matches, Bool.and_eq_true, Bool.not_eq_true'] at satisfied ⊢
  obtain ⟨present, holds⟩ := satisfied
  by_cases onY : p.column = y
  · obtain ⟨order, compares⟩ := Operator.exists_order (orders onY)
    rw [onY, compares] at holds ⊢
    rw [h.cell_yAxis]
    exact ⟨rfl, Scalar.inOrder_coerce holds⟩
  · rw [h.cell_of_present onY present]
    exact ⟨present, holds⟩

namespace Query

/-- The axes of a raw query that names both. -/
theorem Normal.axes?_eq {q : Query} (normal : q.Normal) {x y : String} (xAxis : q.xAxis = some x)
    (yAxis : q.yAxis = some y) : q.axes? = some (x, y) := by
  have hasX : x ≠ "" := (normal.xAxis x xAxis).1
  have hasY : y ≠ "" := (normal.yAxis y yAxis).1
  simp [axes?, xAxis, yAxis, hasX, hasY]

/-- A raw query with both axes shows each row that satisfies its filters as it is, but for the cells
on the axes. If it compares only numbers on the y axis, it shows the same rows of what it shows. -/
theorem evaluate_raw_on_axes {wire : Value} {q : Query} (accepted : ofValue wire = .ok q)
    (raw : q.aggregation = .raw) {x y : String} (xAxis : q.xAxis = some x)
    (yAxis : q.yAxis = some y) (rows : List Row) (id : Value) :
    ∃ result, evaluate (some rows) wire id = .ok result ∧
      List.Forall₂ (Row.OnAxes x y) (filterRows rows q.filters) result ∧
      ((∀ p ∈ q.filters, p.column = y →
          p.operator ≠ .eq ∧ p.operator ≠ .neq ∧ p.operator ≠ .contains) →
        evaluate (some result) wire id = .ok result) := by
  have normal := normal_of_ofValue accepted
  have shows (rows : List Row) :
      evaluate (some rows) wire id = .ok ((filterRows rows q.filters).map (·.onAxes x y)) := by
    rw [evaluate, accepted]
    simp only [bind, Except.bind, run_of_raw raw, shapeRows, normal.axes?_eq xAxis yAxis]
  refine ⟨_, shows rows, ?_, ?_⟩
  · rw [List.forall₂_map_right_iff, List.forall₂_same]
    intro row _
    exact row.onAxes_spec x y
  · intro orders
    have satisfied : filterRows ((filterRows rows q.filters).map (·.onAxes x y)) q.filters =
        (filterRows rows q.filters).map (·.onAxes x y) := by
      refine List.filter_eq_self.2 ?_
      intro shown hshown
      obtain ⟨row, hrow, rfl⟩ := List.mem_map.1 hshown
      have before := List.all_eq_true.1 (List.mem_filter.1 hrow).2
      refine List.all_eq_true.2 ?_
      intro p hp
      exact Predicate.matches_of_onAxes (row.onAxes_spec x y) (orders p hp) (before p hp)
    rw [shows, satisfied, List.map_map]
    refine congrArg Except.ok (List.map_congr_left ?_)
    intro row _
    exact (row.onAxes_spec x y).onAxes_eq

/-- A text and a large integer become numbers; the cell under the x axis is null in one row, lacking
in another and a text in a third. -/
theorem evaluate_raw_on_axes_mixed_cells :
    let q : Query :=
      { xAxis := some "x", yAxis := some "v",
        filters := [⟨"v", .gt, "6"⟩, ⟨"k", .neq, "b"⟩, ⟨"v", .lte, "1e300"⟩] }
    let rows : List Row :=
      [ .ofEntries [("v", .str " 7 "), ("k", .str "a"), ("x", .null)],
        .ofEntries [("k", .bool true), ("v", .int (10 ^ 300))],
        .ofEntries [("x", .int 1), ("v", .int 5), ("k", .int 2)],
        .ofEntries [("x", .str ""), ("v", .int (10 ^ 400)), ("k", .str "a")],
        .ofEntries [("x", .str "b"), ("k", .str "c"), ("v", .float (.ofInt 8))],
        .ofEntries [("k", .str "b")] ]
    ofValue q.toValue = .ok q ∧ q.aggregation = .raw ∧ q.xAxis = some "x" ∧ q.yAxis = some "v" ∧
      (∀ p ∈ q.filters, p.column = "v" →
        p.operator ≠ .eq ∧ p.operator ≠ .neq ∧ p.operator ≠ .contains) ∧
      ∃ result, evaluate (some rows) q.toValue .null = .ok result ∧
        List.Forall₂ (Row.OnAxes "x" "v") (filterRows rows q.filters) result ∧
        evaluate (some result) q.toValue .null = .ok result := by
  intro q rows
  have accepted : ofValue q.toValue = .ok q := by decide +kernel
  have orders : ∀ p ∈ q.filters, p.column = "v" →
      p.operator ≠ .eq ∧ p.operator ≠ .neq ∧ p.operator ≠ .contains := by
    decide
  obtain ⟨result, computed, onAxes, again⟩ := evaluate_raw_on_axes accepted rfl rfl rfl rows .null
  exact ⟨accepted, rfl, rfl, rfl, orders, result, computed, onAxes, again orders⟩

-- A filter that looks for a text on the y axis drops what it has kept, once a number stands in the
-- place of the text.
example :
    let q : Query := { xAxis := some "x", yAxis := some "v", filters := [⟨"v", .contains, "a"⟩] }
    let result : List Row := [.ofEntries [("x", .int 1), ("v", .float .zero)]]
    evaluate (some [.ofEntries [("x", .int 1), ("v", .str "abc")]]) q.toValue .null = .ok result ∧
      evaluate (some result) q.toValue .null = .ok [] := by
  decide +kernel

end Query

end Tabulate
