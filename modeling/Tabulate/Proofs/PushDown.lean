import Tabulate.Proofs.Condense
import Tabulate.Proofs.Filters

/-!
# Filtering groups by their keys

Whether a present cell satisfies a predicate depends on the cell's text alone, since the text of a
number denotes the number. So a predicate on a key column holds of all members of a group or of
none, and of the group's row with them: `Query.evaluate_filter_key` says that such a predicate may
be applied before grouping or after it.
-/

namespace Tabulate

/-! ### Predicates on key columns -/

namespace Query

theorem Normal.isName_of_mem_keyColumns {q : Query} (normal : q.Normal) {column : String}
    (keyed : column ∈ q.keyColumns) : IsName column := by
  unfold keyColumns at keyed
  split at keyed
  · split at keyed
    · rename_i x xAxis
      split at keyed
      · cases keyed
      · rw [List.mem_singleton.1 keyed]
        exact normal.xAxis x xAxis
    · cases keyed
  · exact normal.groupBy column keyed

/-- The row of a group of rows satisfies a predicate on a key column just if the first member
does. -/
theorem Draws.matches_rowOf {q : Query} {x y : String} {figure : Binary64 → List Binary64 → Value}
    (draws : q.Draws x y figure) {p : Predicate} (keyed : p.column ∈ q.keyColumns)
    (other : p.column ≠ y) (rows : List Row) {m : Row}
    (present : (m.cell p.column).isAbsent = false) :
    p.matches (q.rowOf x y figure rows m) = p.matches m := by
  have cell : (q.rowOf x y figure rows m).cell p.column = m.cell p.column := by
    rw [draws.cell_rowOf keyed other, Row.ofValue_keyValue (by simp [present])]
  rw [Predicate.matches, Predicate.matches, cell]

/-- Filters that drop whole groups leave the rows of the other groups as they are. -/
theorem Draws.run_of_whole_groups {q : Query} {x y : String}
    {figure : Binary64 → List Binary64 → Value} (draws : q.Draws x y figure) {rows : List Row}
    {filters : List Predicate} {keep : Row → Bool}
    (survivors : filterRows rows filters = (filterRows rows q.filters).filter keep)
    (whole : ∀ r ∈ filterRows rows q.filters, ∀ s ∈ filterRows rows q.filters,
      r.key q.keyColumns = s.key q.keyColumns → keep r = keep s) :
    ({ q with filters := filters }).run rows =
      .ok (((Group.firsts (Row.key q.keyColumns) (filterRows rows q.filters)).filter keep).map
        (q.rowOf x y figure (filterRows rows q.filters))) := by
  let pushed : Query := { q with filters := filters }
  have pushedDraws : pushed.Draws x y figure := { draws with }
  have run := pushedDraws.run_eq_map_firsts rows
  have keys : pushed.keyColumns = q.keyColumns := rfl
  rw [survivors, keys, Group.firsts_filter whole] at run
  rw [run]
  apply congrArg Except.ok
  apply List.map_congr_left
  intro m hm
  obtain ⟨hm, kept⟩ := List.mem_filter.1 hm
  have member := Group.mem_of_mem_firsts hm
  have around : Group.around (Row.key q.keyColumns) ((filterRows rows q.filters).filter keep) m =
      Group.around (Row.key q.keyColumns) (filterRows rows q.filters) m := by
    apply Group.around_filter
    intro r hr same
    rw [whole r hr m member same, kept]
  rw [rowOf, rowOf, keys, around]
  rfl

/-- A predicate on a key column may be applied before grouping or after it, if every row has a value
there. -/
theorem evaluate_filter_key {wire : Value} {q : Query} (accepted : ofValue wire = .ok q)
    (condenses : q.aggregation ≠ .raw) (unkeyed : ∀ y ∈ q.yAxis, y ∉ q.keyColumns) {p : Predicate}
    (keyed : p.column ∈ q.keyColumns) (known : p.operator.known) {before after : List Predicate}
    (split : q.filters = before ++ after) (rows : List Row)
    (present : ∀ row ∈ filterRows rows q.filters, (row.cell p.column).isAbsent = false)
    (id : Value) :
    ∃ result, evaluate (some rows) wire id = .ok result ∧
      evaluate (some rows) ({ q with filters := before ++ p :: after }).toValue id =
        .ok (filterRows result [p]) := by
  have normal := normal_of_ofValue accepted
  obtain ⟨x, y, figure, draws, -⟩ := normal.draws condenses
  have pushedNormal : ({ q with filters := before ++ p :: after }).Normal := by
    apply normal.withFilters
    intro r hr
    rcases List.mem_append.1 hr with hr | hr
    · exact normal.filters r (split ▸ List.mem_append_left _ hr)
    · rcases List.mem_cons.1 hr with rfl | hr
      · exact ⟨normal.isName_of_mem_keyColumns keyed, known⟩
      · exact normal.filters r (split ▸ List.mem_append_right _ hr)
  have other : p.column ≠ y := by
    rintro rfl
    exact unkeyed _ draws.yAxis keyed
  have survivors : filterRows rows (before ++ p :: after) =
      (filterRows rows q.filters).filter p.matches := by
    rw [filterRows_insert, split]
  -- the members of a group agree on the text in the column of the predicate, so on the predicate
  have whole : ∀ r ∈ filterRows rows q.filters, ∀ s ∈ filterRows rows q.filters,
      r.key q.keyColumns = s.key q.keyColumns → p.matches r = p.matches s := by
    intro r hr s hs same
    exact Predicate.matches_congr (present r hr) (present s hs) (Row.text_eq_of_key_eq same keyed)
  have shown : (Group.firsts (Row.key q.keyColumns) (filterRows rows q.filters)).filter
        (p.matches ∘ q.rowOf x y figure (filterRows rows q.filters)) =
      (Group.firsts (Row.key q.keyColumns) (filterRows rows q.filters)).filter p.matches := by
    apply List.filter_congr
    intro m hm
    exact draws.matches_rowOf keyed other _ (present m (Group.mem_of_mem_firsts hm))
  refine ⟨_, (evaluate_of_accepted accepted rows id).trans (draws.run_eq_map_firsts rows), ?_⟩
  rw [evaluate_toValue pushedNormal, draws.run_of_whole_groups survivors whole,
    filterRows_singleton, List.filter_map, shown]

/-- A number and its text form one group, and the numbers `1` and `1.0` two groups that both equal
the value `1`. -/
theorem evaluate_filter_key_equal_numbers :
    let q : Query :=
      { xAxis := some "k", yAxis := some "v", aggregation := .sum, filters := [⟨"v", .neq, "x"⟩] }
    let p : Predicate := ⟨"k", .eq, "1"⟩
    let rows : List Row :=
      [ .ofEntries [("k", .int 1), ("v", .int 5)], .ofEntries [("k", .float (.ofInt 1))],
        .ofEntries [("v", .str "x")],
        .ofEntries [("k", .str "1"), ("v", .str "7")],
        .ofEntries [("k", .bool true), ("v", .int 2)] ]
    ofValue q.toValue = .ok q ∧ q.aggregation ≠ .raw ∧ (∀ y ∈ q.yAxis, y ∉ q.keyColumns) ∧
      p.column ∈ q.keyColumns ∧ p.operator.known ∧ q.filters = [] ++ q.filters ∧
      (∀ row ∈ filterRows rows q.filters, (row.cell p.column).isAbsent = false) ∧
      ∃ result, evaluate (some rows) q.toValue .null = .ok result ∧
        evaluate (some rows) ({ q with filters := [] ++ p :: q.filters }).toValue .null =
          .ok (filterRows result [p]) := by
  intro q p rows
  have accepted : ofValue q.toValue = .ok q := by decide +kernel
  have unkeyed : ∀ y ∈ q.yAxis, y ∉ q.keyColumns := by decide
  have keyed : p.column ∈ q.keyColumns := by decide
  have split : q.filters = [] ++ q.filters := rfl
  have present : ∀ row ∈ filterRows rows q.filters, (row.cell p.column).isAbsent = false := by
    decide +kernel
  exact ⟨accepted, by decide, unkeyed, keyed, rfl, split, present,
    evaluate_filter_key accepted (by decide) unkeyed keyed rfl split rows present .null⟩

end Query

end Tabulate
