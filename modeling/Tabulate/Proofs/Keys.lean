import Tabulate.Proofs.Comparison

/-!
# Keys in the rows of an aggregating query

The row of a group is written column by column under names that the query chooses, and names may
coincide. The y axis is written last. So a key column keeps the text by which the group was formed,
unless it is the y axis: `Query.evaluate_shows_keys`. Where the y axis is no key column, rows of
different groups differ in their keys.
-/

namespace Tabulate

namespace Query

/-- `row` has in every key column but the y axis the text that all members of its group have
there. -/
def ShowsKey (q : Query) (y : String) (members : List Row) (row : Row) : Prop :=
  ∀ column ∈ q.keyColumns, column ≠ y → ∀ m ∈ members, (row.cell column).text = (m.cell column).text

/-- `result` has one row for each of the given keys, computed from the rows with that key, and shows
the key. -/
def ShowsKeys (q : Query) (x y : String) (rows : List Row) (keys : List (List String))
    (result : List Row) : Prop :=
  List.Forall₂ (fun key row => ∃ first others,
    rows.filter (·.key q.keyColumns = key) = first :: others ∧
    q.Shows x y first others row ∧ q.ShowsKey y (first :: others) row) keys result

theorem Draws.showsKey_rowOf {q : Query} {x y : String} {figure : Binary64 → List Binary64 → Value}
    (draws : q.Draws x y figure) (rows : List Row) (first : Row) :
    q.ShowsKey y (rows.filter (·.key q.keyColumns = first.key q.keyColumns))
      (q.rowOf x y figure rows first) := by
  intro column keyed other m member
  have same : m.key q.keyColumns = first.key q.keyColumns := by
    simpa using (List.mem_filter.1 member).2
  rw [draws.cell_rowOf keyed other, Row.text_keyValue, Row.text_eq_of_key_eq same keyed]

/-- The rows of an aggregating query stand for groups with different keys, and each shows the key of
its group in all key columns but the y axis. If that is no key column, no two rows have the same
texts in the key columns. -/
theorem evaluate_shows_keys {wire : Value} {q : Query} (accepted : ofValue wire = .ok q)
    (condenses : q.aggregation ≠ .raw) (rows : List Row) (id : Value) :
    ∃ x y keys result, q.xAxis = some x ∧ q.yAxis = some y ∧
      evaluate (some rows) wire id = .ok result ∧ keys.Nodup ∧
      q.ShowsKeys x y (filterRows rows q.filters) keys result ∧
      (y ∉ q.keyColumns → result.Pairwise fun r s => r.key q.keyColumns ≠ s.key q.keyColumns) := by
  obtain ⟨x, y, figure, draws, right⟩ := (normal_of_ofValue accepted).draws condenses
  let survivors := filterRows rows q.filters
  let firsts := Group.firsts (Row.key q.keyColumns) survivors
  have computed : q.run rows = .ok (firsts.map (q.rowOf x y figure survivors)) :=
    draws.run_eq_map_firsts rows
  refine ⟨x, y, firsts.map (Row.key q.keyColumns), firsts.map (q.rowOf x y figure survivors),
    draws.xAxis, draws.yAxis, (evaluate_of_accepted accepted rows id).trans computed,
    Group.nodup_map_firsts _ _, ?_, ?_⟩
  · rw [ShowsKeys, List.forall₂_map_left_iff, List.forall₂_map_right_iff, List.forall₂_same]
    intro first hfirst
    have members := Group.filter_of_mem_firsts hfirst
    have shown := draws.showsKey_rowOf survivors first
    rw [members] at shown
    exact ⟨first, _, members,
      draws.shows right (Group.around (Row.key q.keyColumns) survivors first), shown⟩
  · intro unkeyed
    exact List.pairwise_map.1 (draws.summarizes right unkeyed computed).nodup

/-- The x axis is the second column to group by, one column is named twice, a group mixes spellings
of one key, and an absent cell is shown as the empty text. -/
theorem evaluate_shows_keys_coinciding_axes :
    let wire : Value := .record
      [ ("xAxis", .str "l "), ("yAxis", .str "v"), ("aggregation", .str "max"),
        ("groupBy", .list [.str "k", .str "l", .str "k"]) ]
    let q : Query :=
      { xAxis := some "l", yAxis := some "v", aggregation := .max, groupBy := ["k", "l", "k"] }
    let rows : List Row :=
      [ .ofEntries [("k", .int 1), ("l", .bool true), ("v", .int 2)],
        .ofEntries [("k", .str "1"), ("l", .str "true")],
        .ofEntries [("l", .str "1")],
        .ofEntries [("k", .float (.ofInt 1)), ("l", .null), ("v", .str "3")] ]
    ofValue wire = .ok q ∧ q.aggregation ≠ .raw ∧
      ∃ x y keys result, q.xAxis = some x ∧ q.yAxis = some y ∧
        evaluate (some rows) wire .null = .ok result ∧
        keys.Nodup ∧ q.ShowsKeys x y (filterRows rows q.filters) keys result ∧ y ∉ q.keyColumns ∧
        result.Pairwise fun r s => r.key q.keyColumns ≠ s.key q.keyColumns := by
  intro wire q rows
  have accepted : ofValue wire = .ok q := by decide +kernel
  have unkeyed : ∀ y, q.yAxis = some y → y ∉ q.keyColumns := by
    rintro y yAxis
    obtain rfl : "v" = y := Option.some.inj yAxis
    decide
  obtain ⟨x, y, keys, result, xAxis, yAxis, computed, nodup, shown, distinct⟩ :=
    evaluate_shows_keys accepted (by decide) rows .null
  exact ⟨accepted, by decide, x, y, keys, result, xAxis, yAxis, computed, nodup, shown,
    unkeyed y yAxis, distinct (unkeyed y yAxis)⟩

/-- If the y axis is the key column, the figures stand in the place of the keys, and two groups may
be shown alike. -/
theorem evaluate_hides_keys_on_y_axis :
    let q : Query := { xAxis := some "k", yAxis := some "k", aggregation := .count }
    let rows : List Row := [.ofEntries [("k", .str "a")], .ofEntries [("k", .str "b")]]
    ofValue q.toValue = .ok q ∧ q.aggregation ≠ .raw ∧ q.keyColumns = ["k"] ∧
      ∃ row : Row, evaluate (some rows) q.toValue .null = .ok [row, row] ∧
        ∀ m ∈ rows, (row.cell "k").text ≠ (m.cell "k").text := by
  refine ⟨by decide +kernel, by decide, by decide, .ofEntries [("k", .int 1)], ?_, ?_⟩
  all_goals decide +kernel

end Query

end Tabulate
