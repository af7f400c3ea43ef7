import Mathlib.Data.List.Perm.Subperm
import Tabulate.Proofs.Columns
import Tabulate.Proofs.Condense

/-!
# Comparing the results of a query

Two results of one aggregating query are compared group by group: groups are matched by the texts of
their keys, since the order of the groups and the first member, whose values are shown, may differ.
`Query.Summarizes` says what a result shows of the rows that it is made of, for each key.

More filters leave fewer rows, so no group has more members than it had:
`Query.evaluate_stronger_filters`. The order of rows does not matter to counts, least and greatest
numbers: `Query.evaluate_perm`.
-/

namespace Tabulate

/-! ### Figures of some of the members -/

namespace Binary64

theorem le_iff_place {x y : Binary64} (hx : x.isFinite) (hy : y.isFinite) :
    x.le y ↔ x.place ≤ y.place := by
  simp [le, rank_of_isFinite hx, rank_of_isFinite hy]

theorem numEq_of_le {x y : Binary64} (below : x.le y) (above : y.le x) : x.numEq y := by
  unfold le at below above
  unfold numEq
  cases hx : x.rank with
  | none => simp [hx] at below
  | some a =>
    cases hy : y.rank with
    | none => simp [hy] at below
    | some b =>
      simp only [hx, hy, decide_eq_true_eq] at below above
      exact beq_iff_eq.2 (Int.le_antisymm below above)

end Binary64

/-- How the figure `w` of a group goes with the figure `v` of some of its members: a count and a
greatest number are at least as great, a least number is at most as great. -/
def Aggregation.Dominates : Aggregation → Value → Value → Prop
  | count, w, v => ∃ m n : Int, v = .int m ∧ w = .int n ∧ m ≤ n
  | min, w, v => ∃ a b, v = .float a ∧ w = .float b ∧ b.le a
  | max, w, v => ∃ a b, v = .float a ∧ w = .float b ∧ a.le b
  | _, _, _ => True

/-- The figure of numbers dominates that of some of them, in any order. -/
theorem Aggregation.IsFigure.dominates {a : Aggregation} {xs ys : List Binary64} {v w : Value}
    (whole : a.IsFigure xs w) (part : a.IsFigure ys v) (some_ : ys.Subperm xs)
    (finite : ∀ x ∈ xs, x.isFinite) : a.Dominates w v := by
  have finite' : ∀ y ∈ ys, y.isFinite := fun y hy => finite y (some_.subset hy)
  cases a with
  | count => exact ⟨ys.length, xs.length, part, whole, Int.ofNat_le.2 some_.length_le⟩
  | min =>
    obtain ⟨n, rfl, best⟩ := part
    obtain ⟨m, rfl, best'⟩ := whole
    have bound : m.place ≤ n.place :=
      best'.score_le (fun a ha b hb => Binary64.lt_iff_place (finite a ha) (finite b hb))
        (some_.subset best.mem)
    exact ⟨n, m, rfl, rfl,
      (Binary64.le_iff_place (finite m best'.mem) (finite' n best.mem)).2 bound⟩
  | max =>
    obtain ⟨n, rfl, best⟩ := part
    obtain ⟨m, rfl, best'⟩ := whole
    let score (x : Binary64) : Int := -x.place
    have bound : score m ≤ score n := by
      refine best'.score_le ?_ (some_.subset best.mem)
      intro a ha b hb
      rw [Binary64.lt_iff_place (finite b hb) (finite a ha)]
      exact Int.neg_lt_neg_iff.symm
    exact ⟨n, m, rfl, rfl, (Binary64.le_iff_place (finite' n best.mem) (finite m best'.mem)).2
      (Int.neg_le_neg_iff.1 bound)⟩
  | _ => trivial

/-- Figures of counting and of choosing a number that dominate each other are equal as numbers. -/
theorem Aggregation.Dominates.antisymm {a : Aggregation} (picks : a = .count ∨ a = .min ∨ a = .max)
    {v w : Value} (h : a.Dominates w v) (h' : a.Dominates v w) :
    (∃ n, v = .int n ∧ w = .int n) ∨ ∃ x y, v = .float x ∧ w = .float y ∧ x.numEq y := by
  rcases picks with rfl | rfl | rfl
  · obtain ⟨m, n, rfl, rfl, below⟩ := h
    obtain ⟨_, _, same, same', above⟩ := h'
    cases same
    cases same'
    exact .inl ⟨m, rfl, congrArg Value.int (Int.le_antisymm above below)⟩
  · obtain ⟨x, y, rfl, rfl, below⟩ := h
    obtain ⟨_, _, same, same', above⟩ := h'
    cases same
    cases same'
    exact .inr ⟨x, y, rfl, rfl, Binary64.numEq_of_le above below⟩
  · obtain ⟨x, y, rfl, rfl, below⟩ := h
    obtain ⟨_, _, same, same', above⟩ := h'
    cases same
    cases same'
    exact .inr ⟨x, y, rfl, rfl, Binary64.numEq_of_le below above⟩

/-! ### Filters -/

/-- More filters leave some of the rows that fewer leave. -/
theorem filterRows_sublist {filters more : List Predicate} (weaker : filters ⊆ more)
    (rows : List Row) : (filterRows rows more).Sublist (filterRows rows filters) := by
  refine List.monotone_filter_right rows ?_
  intro row satisfied
  rw [List.all_eq_true] at satisfied ⊢
  intro p hp
  exact satisfied p (weaker hp)

theorem shapeRows_sublist {rows rows' : List Row} (sub : rows'.Sublist rows) (q : Query) :
    (shapeRows rows' q).Sublist (shapeRows rows q) := by
  unfold shapeRows
  split
  · exact sub.map _
  · exact sub

/-- Rows of one group: they have the same columns with the same texts, and equal numbers on the y
axis. -/
structure Row.SameButSpelling (y : String) (r s : Row) : Prop where
  columns : r.columns = s.columns
  texts : ∀ column, column ≠ y → (r.cell column).text = (s.cell column).text
  number : (∃ n, r.get? y = some (.int n) ∧ s.get? y = some (.int n)) ∨
    ∃ a b, r.get? y = some (.float a) ∧ s.get? y = some (.float b) ∧ a.numEq b

namespace Query

/-! ### What a result shows of rows -/

section Showing

variable {q : Query} {x y column : String} {first row : Row} {others : List Row}

/-- A column other than the y axis shows a text that the key of the group decides. -/
theorem Shows.text_cell (shows : q.Shows x y first others row) (other : column ≠ y) :
    (row.cell column).text =
      if column ∈ q.groupBy then (first.cell column).text
      else if column = x then (first.cell (q.groupBy.headD x)).text else "" := by
  by_cases grouped : column ∈ q.groupBy
  · rw [if_pos grouped, Row.cell_of_get? (shows.groupBy column grouped other), Row.text_keyValue]
  rw [if_neg grouped]
  by_cases onX : column = x
  · subst onX
    have held := shows.xAxis other
    rw [if_neg grouped] at held
    rw [if_pos rfl, Row.cell_of_get? held, Row.text_keyValue]
  · have absent : column ∉ row.columns := by
      rw [shows.columns, mem_foldl_addColumn]
      simp [onX, grouped, other]
    rw [if_neg onX, Row.cell, Row.get?_eq_none absent]
    rfl

end Showing

/-- The row of a group has the key of the group's first member. -/
theorem Draws.key_rowOf {q : Query} {x y : String} {figure : Binary64 → List Binary64 → Value}
    (draws : q.Draws x y figure) (unkeyed : y ∉ q.keyColumns) (rows : List Row) (m : Row) :
    (q.rowOf x y figure rows m).key q.keyColumns = m.key q.keyColumns := by
  apply List.map_congr_left
  intro column keyed
  have other : column ≠ y := by
    rintro rfl
    exact unkeyed keyed
  rw [draws.cell_rowOf keyed other, Row.text_keyValue]

/-- `result` has one row for each key of `rows`, and the row with a key shows the group of the rows
with that key. -/
structure Summarizes (q : Query) (x y : String) (rows result : List Row) : Prop where
  nodup : (result.map (Row.key q.keyColumns)).Nodup
  mem_keys : ∀ key, key ∈ result.map (Row.key q.keyColumns) ↔
    ∃ row ∈ rows, row.key q.keyColumns = key
  shows : ∀ row ∈ result, ∃ first others,
    rows.filter (·.key q.keyColumns = row.key q.keyColumns) = first :: others ∧
    q.Shows x y first others row

/-- An aggregating query whose y axis is no key column summarizes the rows that satisfy its
filters. -/
theorem Draws.summarizes {q : Query} {x y : String} {figure : Binary64 → List Binary64 → Value}
    (draws : q.Draws x y figure)
    (right : ∀ z zs, (∀ w ∈ z :: zs, w.isFinite) → q.aggregation.IsFigure (z :: zs) (figure z zs))
    (unkeyed : y ∉ q.keyColumns) {rows result : List Row} (computed : q.run rows = .ok result) :
    q.Summarizes x y (filterRows rows q.filters) result := by
  let survivors := filterRows rows q.filters
  let firsts := Group.firsts (Row.key q.keyColumns) survivors
  obtain rfl : firsts.map (q.rowOf x y figure survivors) = result :=
    Except.ok.inj ((draws.run_eq_map_firsts rows).symm.trans computed)
  have keys : (firsts.map (q.rowOf x y figure survivors)).map (Row.key q.keyColumns) =
      firsts.map (Row.key q.keyColumns) := by
    rw [List.map_map]
    apply List.map_congr_left
    intro m _
    exact draws.key_rowOf unkeyed survivors m
  refine ⟨?_, ?_, ?_⟩
  · rw [keys]
    exact Group.nodup_map_firsts (Row.key q.keyColumns) survivors
  · intro key
    rw [keys]
    exact Group.mem_map_firsts
  · intro row hrow
    obtain ⟨m, hm, rfl⟩ := List.mem_map.1 hrow
    rw [draws.key_rowOf unkeyed]
    exact ⟨m, _, Group.filter_of_mem_firsts hm,
      draws.shows right (Group.around (Row.key q.keyColumns) survivors m)⟩

/-- So does the query with other filters. -/
theorem Draws.summarizes_withFilters {q : Query} {x y : String}
    {figure : Binary64 → List Binary64 → Value} (draws : q.Draws x y figure)
    (right : ∀ z zs, (∀ w ∈ z :: zs, w.isFinite) → q.aggregation.IsFigure (z :: zs) (figure z zs))
    (unkeyed : y ∉ q.keyColumns) {filters : List Predicate} {rows result : List Row}
    (computed : ({ q with filters := filters }).run rows = .ok result) :
    q.Summarizes x y (filterRows rows filters) result := by
  let other : Query := { q with filters := filters }
  have otherDraws : other.Draws x y figure := { draws with }
  have summarizes : other.Summarizes x y (filterRows rows filters) result :=
    otherDraws.summarizes right unkeyed computed
  obtain ⟨nodup, mem_keys, shows⟩ := summarizes
  refine ⟨nodup, mem_keys, ?_⟩
  intro row hrow
  obtain ⟨first, others, members, shown⟩ := shows row hrow
  exact ⟨first, others, members, { shown with }⟩

section Summaries

variable {q : Query} {x y : String} {rows result : List Row}

/-- The numbers on the y axis of the rows with a key. -/
def numbers (q : Query) (y : String) (rows : List Row) (key : List String) : List Binary64 :=
  (rows.filter (·.key q.keyColumns = key)).map fun m => (m.cell y).coerce

/-- Some of the rows have some of the numbers. -/
theorem numbers_subperm {rows' : List Row} (some_ : rows'.Subperm rows) (key : List String) :
    (q.numbers y rows' key).Subperm (q.numbers y rows key) := by
  obtain ⟨part, perm, sub⟩ := some_
  exact ⟨q.numbers y part key, (perm.filter _).map _, (sub.filter _).map _⟩

theorem isFinite_of_mem_numbers {key : List String} {n : Binary64} (h : n ∈ q.numbers y rows key) :
    n.isFinite :=
  Row.isFinite_of_mem_coerce h

/-- A row shows the figure of the numbers of its group. -/
theorem Summarizes.figure (summarizes : q.Summarizes x y rows result) {row : Row}
    (hrow : row ∈ result) :
    ∃ v, row.get? y = some v ∧
      q.aggregation.IsFigure (q.numbers y rows (row.key q.keyColumns)) v := by
  obtain ⟨first, others, members, shows⟩ := summarizes.shows row hrow
  rw [numbers, members]
  exact shows.yAxis

/-- A key that occurs among some of the rows has a row in the result of all of them. -/
theorem Summarizes.exists_row {rows' result' : List Row} (summarizes : q.Summarizes x y rows result)
    (summarizes' : q.Summarizes x y rows' result') (sub : rows' ⊆ rows) {row' : Row}
    (hrow' : row' ∈ result') : ∃ row ∈ result, row.key q.keyColumns = row'.key q.keyColumns := by
  obtain ⟨m, hm, keyed⟩ := (summarizes'.mem_keys _).1 (List.mem_map.2 ⟨row', hrow', rfl⟩)
  exact List.mem_map.1 ((summarizes.mem_keys _).2 ⟨m, sub hm, keyed⟩)

/-- The figure of a group dominates that of the group with the same key among some of the rows. -/
theorem Summarizes.dominates {rows' result' : List Row} (summarizes : q.Summarizes x y rows result)
    (summarizes' : q.Summarizes x y rows' result') (some_ : rows'.Subperm rows) {row row' : Row}
    (hrow : row ∈ result) (hrow' : row' ∈ result')
    (same : row.key q.keyColumns = row'.key q.keyColumns) :
    ∃ v v', row.get? y = some v ∧ row'.get? y = some v' ∧ q.aggregation.Dominates v v' := by
  obtain ⟨v, held, whole⟩ := summarizes.figure hrow
  obtain ⟨v', held', part⟩ := summarizes'.figure hrow'
  rw [← same] at part
  have dominates := whole.dominates part (numbers_subperm some_ _) fun _ => isFinite_of_mem_numbers
  exact ⟨v, v', held, held', dominates⟩

end Summaries

/-! ### More filters -/

/-- A query that aggregates summarizes its rows, and with more filters it summarizes some of
them. -/
theorem exists_summaries {wire wire' : Value} {q : Query} {filters : List Predicate}
    (accepted : ofValue wire = .ok q)
    (accepted' : ofValue wire' = .ok { q with filters := filters })
    (condenses : q.aggregation ≠ .raw) (rows : List Row) (id : Value) :
    ∃ x y result result', q.yAxis = some y ∧ evaluate (some rows) wire id = .ok result ∧
      evaluate (some rows) wire' id = .ok result' ∧
      (y ∉ q.keyColumns → q.Summarizes x y (filterRows rows q.filters) result ∧
        q.Summarizes x y (filterRows rows filters) result') := by
  obtain ⟨x, y, figure, draws, right⟩ := (normal_of_ofValue accepted).draws condenses
  let other : Query := { q with filters := filters }
  have otherDraws : other.Draws x y figure := { draws with }
  have computed := draws.run_eq_map_firsts rows
  have computed' := otherDraws.run_eq_map_firsts rows
  refine ⟨x, y, _, _, draws.yAxis, (evaluate_of_accepted accepted rows id).trans computed,
    (evaluate_of_accepted accepted' rows id).trans computed', ?_⟩
  intro unkeyed
  exact ⟨draws.summarizes right unkeyed computed,
    draws.summarizes_withFilters right unkeyed computed'⟩

/-- More filters leave some of the rows of a raw query, and no other groups of an aggregating one:
none of its counts and greatest numbers becomes greater, and none of its least numbers becomes
less. -/
theorem evaluate_stronger_filters {wire wire' : Value} {q : Query} {filters : List Predicate}
    (accepted : ofValue wire = .ok q)
    (accepted' : ofValue wire' = .ok { q with filters := filters }) (weaker : q.filters ⊆ filters)
    (rows : List Row) (id : Value) :
    ∃ result result', evaluate (some rows) wire id = .ok result ∧
      evaluate (some rows) wire' id = .ok result' ∧
      (q.aggregation = .raw → result'.Sublist result) ∧
      (q.aggregation ≠ .raw → ∃ y, q.yAxis = some y ∧ (y ∉ q.keyColumns → ∀ row' ∈ result',
        (∃ row ∈ result, row.key q.keyColumns = row'.key q.keyColumns) ∧
        ∀ row ∈ result, row.key q.keyColumns = row'.key q.keyColumns →
          ∃ v v', row.get? y = some v ∧ row'.get? y = some v' ∧ q.aggregation.Dominates v v')) := by
  have fewer : (filterRows rows filters).Sublist (filterRows rows q.filters) :=
    filterRows_sublist weaker rows
  by_cases raw : q.aggregation = .raw
  · have raw' : ({ q with filters := filters } : Query).aggregation = .raw := raw
    rw [evaluate_of_accepted accepted, evaluate_of_accepted accepted']
    refine ⟨_, _, run_of_raw raw rows, run_of_raw raw' rows, fun _ => shapeRows_sublist fewer q, ?_⟩
    intro condenses
    exact absurd raw condenses
  obtain ⟨x, y, result, result', yAxis, computed, computed', summarize⟩ :=
    exists_summaries accepted accepted' raw rows id
  refine ⟨result, result', computed, computed', fun h => absurd h raw, fun _ => ⟨y, yAxis, ?_⟩⟩
  intro unkeyed row' hrow'
  obtain ⟨summarizes, summarizes'⟩ := summarize unkeyed
  refine ⟨summarizes.exists_row summarizes' fewer.subset hrow', ?_⟩
  intro row hrow same
  exact summarizes.dominates summarizes' fewer.subperm hrow hrow' same

/-- The first member of a group is filtered out, so that the group shows its key in another
spelling; the least number of the group has not become less. -/
theorem evaluate_stronger_filters_other_spelling :
    let q : Query :=
      { xAxis := some "k", yAxis := some "v", aggregation := .min, filters := [⟨"v", .neq, "x"⟩] }
    let filters : List Predicate := [⟨"v", .gt, "1"⟩, ⟨"v", .neq, "x"⟩]
    let rows : List Row :=
      [ .ofEntries [("k", .int 1), ("v", .int (-5))],
        .ofEntries [("k", .bool true), ("v", .str "abc")],
        .ofEntries [("k", .str "1"), ("v", .str "7")], .ofEntries [("v", .float (.ofInt 2))] ]
    ofValue q.toValue = .ok q ∧
      ofValue ({ q with filters := filters }).toValue = .ok { q with filters := filters } ∧
      q.filters ⊆ filters ∧
      ∃ result result', evaluate (some rows) q.toValue .null = .ok result ∧
        evaluate (some rows) ({ q with filters := filters }).toValue .null = .ok result' ∧
        ∀ row' ∈ result', (∃ row ∈ result, row.key q.keyColumns = row'.key q.keyColumns) ∧
          ∀ row ∈ result, row.key q.keyColumns = row'.key q.keyColumns →
            ∃ v v', row.get? "v" = some v ∧ row'.get? "v" = some v' ∧
              q.aggregation.Dominates v v' := by
  intro q filters rows
  have accepted : ofValue q.toValue = .ok q := by decide +kernel
  have accepted' : ofValue ({ q with filters := filters }).toValue =
      .ok { q with filters := filters } := by
    decide +kernel
  have weaker : q.filters ⊆ filters := by decide
  obtain ⟨result, result', computed, computed', -, shrinks⟩ :=
    evaluate_stronger_filters accepted accepted' weaker rows .null
  obtain ⟨y, yAxis, shrinks⟩ := shrinks (by decide)
  cases yAxis
  exact ⟨accepted, accepted', weaker, result, result', computed, computed', shrinks (by decide)⟩

/-! ### Other orders of rows -/

section Reordering

variable {q : Query} {x y : String} {figure : Binary64 → List Binary64 → Value}
  {rows rows' result result' : List Row}

/-- Results that summarize the same rows in different orders have the same keys. -/
theorem Summarizes.perm_keys (summarizes : q.Summarizes x y rows result)
    (summarizes' : q.Summarizes x y rows' result') (perm : rows.Perm rows') :
    (result.map (Row.key q.keyColumns)).Perm (result'.map (Row.key q.keyColumns)) := by
  refine (List.perm_ext_iff_of_nodup summarizes.nodup summarizes'.nodup).2 ?_
  intro key
  rw [summarizes.mem_keys, summarizes'.mem_keys]
  simp only [perm.mem_iff]

/-- Rows with one key show the same texts under every column but the y axis. -/
theorem Summarizes.text_eq (draws : q.Draws x y figure) (summarizes : q.Summarizes x y rows result)
    (summarizes' : q.Summarizes x y rows' result') {row row' : Row} (hrow : row ∈ result)
    (hrow' : row' ∈ result') (same : row.key q.keyColumns = row'.key q.keyColumns) {column : String}
    (other : column ≠ y) : (row.cell column).text = (row'.cell column).text := by
  obtain ⟨first, others, members, shows⟩ := summarizes.shows row hrow
  obtain ⟨first', others', members', shows'⟩ := summarizes'.shows row' hrow'
  have keyed : first.key q.keyColumns = row.key q.keyColumns := by
    have member : first ∈ rows.filter (·.key q.keyColumns = row.key q.keyColumns) := by
      simp [members]
    simpa using (List.mem_filter.1 member).2
  have keyed' : first'.key q.keyColumns = row'.key q.keyColumns := by
    have member : first' ∈ rows'.filter (·.key q.keyColumns = row'.key q.keyColumns) := by
      simp [members']
    simpa using (List.mem_filter.1 member).2
  have firsts : first.key q.keyColumns = first'.key q.keyColumns :=
    (keyed.trans same).trans keyed'.symm
  have head : q.groupBy.headD x ∈ q.keyColumns := by
    rw [draws.keyColumns]
    exact List.mem_cons_self
  rw [shows.text_cell other, shows'.text_cell other, Row.text_eq_of_key_eq firsts head]
  by_cases grouped : column ∈ q.groupBy
  · have listed : column ∈ q.keyColumns := by
      rw [draws.keyColumns]
      cases columns : q.groupBy with
      | nil => simp [columns] at grouped
      | cons first rest => exact columns ▸ grouped
    rw [if_pos grouped, if_pos grouped, Row.text_eq_of_key_eq firsts listed]
  · rw [if_neg grouped, if_neg grouped]

end Reordering

/-- Counts, least and greatest numbers do not depend on the order of rows: in another order the keys
are the same, and so is what is shown for each, but for the spelling of its values. -/
theorem evaluate_perm {wire : Value} {q : Query} (accepted : ofValue wire = .ok q)
    (picks : q.aggregation = .count ∨ q.aggregation = .min ∨ q.aggregation = .max)
    (unkeyed : ∀ y ∈ q.yAxis, y ∉ q.keyColumns) {rows rows' : List Row} (perm : rows.Perm rows')
    (id : Value) :
    ∃ y result result', q.yAxis = some y ∧ evaluate (some rows) wire id = .ok result ∧
      evaluate (some rows') wire id = .ok result' ∧
      (result.map (Row.key q.keyColumns)).Perm (result'.map (Row.key q.keyColumns)) ∧
      ∀ row ∈ result, ∀ row' ∈ result', row.key q.keyColumns = row'.key q.keyColumns →
        Row.SameButSpelling y row row' := by
  have condenses : q.aggregation ≠ .raw := by rcases picks with h | h | h <;> simp [h]
  obtain ⟨x, y, figure, draws, right⟩ := (normal_of_ofValue accepted).draws condenses
  have unkeyed := unkeyed y draws.yAxis
  have survivors : (filterRows rows q.filters).Perm (filterRows rows' q.filters) := perm.filter _
  have computed := draws.run_eq_map_firsts rows
  have computed' := draws.run_eq_map_firsts rows'
  have summarizes := draws.summarizes right unkeyed computed
  have summarizes' := draws.summarizes right unkeyed computed'
  refine ⟨y, _, _, draws.yAxis, (evaluate_of_accepted accepted rows id).trans computed,
    (evaluate_of_accepted accepted rows' id).trans computed',
    summarizes.perm_keys summarizes' survivors, ?_⟩
  intro row hrow row' hrow' same
  obtain ⟨first, others, -, shows⟩ := summarizes.shows row hrow
  obtain ⟨first', others', -, shows'⟩ := summarizes'.shows row' hrow'
  refine ⟨shows.columns.trans shows'.columns.symm, ?_, ?_⟩
  · intro column other
    exact summarizes.text_eq draws summarizes' hrow hrow' same other
  · obtain ⟨v, v', held, held', above⟩ :=
      summarizes.dominates summarizes' survivors.symm.subperm hrow hrow' same
    obtain ⟨w', w, again', again, below⟩ :=
      summarizes'.dominates summarizes survivors.subperm hrow' hrow same.symm
    rw [held] at again
    rw [held'] at again'
    cases again
    cases again'
    rw [held, held']
    simpa using below.antisymm picks above

/-- The first rows of a group change places, of which one has a text for the number of the other,
and zero comes with both signs. -/
theorem evaluate_perm_mixed_cells :
    let q : Query :=
      { xAxis := some "label", yAxis := some "v", aggregation := .max, groupBy := ["k"],
        filters := [⟨"v", .neq, "x"⟩] }
    let rows : List Row :=
      [ .ofEntries [("k", .int 1), ("v", .float (.signedZero true))],
        .ofEntries [("k", .str "1"), ("v", .str "abc")],
        .ofEntries [("v", .int 3)], .ofEntries [("k", .str "b"), ("v", .str "x")] ]
    let rows' : List Row :=
      [ .ofEntries [("k", .str "1"), ("v", .str "abc")],
        .ofEntries [("k", .int 1), ("v", .float (.signedZero true))],
        .ofEntries [("v", .int 3)], .ofEntries [("k", .str "b"), ("v", .str "x")] ]
    ofValue q.toValue = .ok q ∧
      (q.aggregation = .count ∨ q.aggregation = .min ∨ q.aggregation = .max) ∧
      (∀ y ∈ q.yAxis, y ∉ q.keyColumns) ∧ rows.Perm rows' ∧
      ∃ y result result', q.yAxis = some y ∧ evaluate (some rows) q.toValue .null = .ok result ∧
        evaluate (some rows') q.toValue .null = .ok result' ∧
        (result.map (Row.key q.keyColumns)).Perm (result'.map (Row.key q.keyColumns)) ∧
        ∀ row ∈ result, ∀ row' ∈ result', row.key q.keyColumns = row'.key q.keyColumns →
          Row.SameButSpelling y row row' := by
  intro q rows rows'
  have accepted : ofValue q.toValue = .ok q := by decide +kernel
  have picks : q.aggregation = .count ∨ q.aggregation = .min ∨ q.aggregation = .max :=
    .inr (.inr rfl)
  have unkeyed : ∀ y ∈ q.yAxis, y ∉ q.keyColumns := by decide
  have perm : rows.Perm rows' := List.Perm.swap _ _ _
  exact ⟨accepted, picks, unkeyed, perm, evaluate_perm accepted picks unkeyed perm .null⟩

end Query

end Tabulate
