import Mathlib.Algebra.BigOperators.Ring.Finset
import Tabulate.Proofs.Condense

/-!
# Counts

Every row that satisfies the filters is counted in one group, whatever its cells hold. So the counts
that a query shows add up to the number of rows that it would show if it did not aggregate:
`Query.evaluate_counts_add_up`.
-/

namespace Tabulate

namespace Group

variable {κ α : Type} [DecidableEq κ]

/-- The sizes of the groups of a list add up to its length. -/
theorem sum_length_members (key : α → κ) (as : List α) :
    ((ofList key as).map fun g => g.members.length).sum = as.length := by
  have lengths : (ofList key as).map (fun g => g.members.length) =
      ((ofList key as).map members).map List.length := by
    simp
  rw [lengths, ← List.length_flatten]
  exact (flatten_members_perm key as).length_eq

end Group

namespace Query

/-- A raw query shows as many rows as satisfy its filters. -/
theorem length_shapeRows (rows : List Row) (q : Query) :
    (shapeRows rows q).length = rows.length := by
  unfold shapeRows
  split <;> simp

/-- The y axis of a group's row holds the number of the group's members. -/
theorem Draws.get?_groupRow_of_counts {q : Query} {x y : String}
    {figure : Binary64 → List Binary64 → Value} (draws : q.Draws x y figure)
    (right : ∀ z zs, (∀ w ∈ z :: zs, w.isFinite) → q.aggregation.IsFigure (z :: zs) (figure z zs))
    (counts : q.aggregation = .count) (g : Group (List String) Row) :
    (q.groupRow ⟨x, y, id⟩ (q.groupBy.headD x) figure g).get? y = some (.int g.members.length) := by
  obtain ⟨v, held, isFigure⟩ := (draws.shows right g).yAxis
  rw [counts] at isFigure
  have isCount : v = .int ((g.first :: g.others).map fun m => (m.cell y).coerce).length := isFigure
  rw [held, isCount, List.length_map]
  rfl

/-- The counts of a query are at least one and add up to the number of rows that a raw query with
the same filters shows. -/
theorem evaluate_counts_add_up {wire plain : Value} {q r : Query} (accepted : ofValue wire = .ok q)
    (counts : q.aggregation = .count) (acceptedPlain : ofValue plain = .ok r)
    (raw : r.aggregation = .raw) (filters : r.filters = q.filters) (rows : List Row)
    (dataset : Value) :
    ∃ y result shown, ∃ ns : List Int, q.yAxis = some y ∧
      evaluate (some rows) wire dataset = .ok result ∧
      evaluate (some rows) plain dataset = .ok shown ∧
      List.Forall₂ (fun row n => row.get? y = some (.int n)) result ns ∧ (∀ n ∈ ns, 1 ≤ n) ∧
      ns.sum = shown.length := by
  have condenses : q.aggregation ≠ .raw := by simp [counts]
  obtain ⟨x, y, figure, draws, right⟩ := (normal_of_ofValue accepted).draws condenses
  let survivors := filterRows rows q.filters
  let groups := Group.ofList (Row.key q.keyColumns) survivors
  refine ⟨y, groups.map (q.groupRow ⟨x, y, id⟩ (q.groupBy.headD x) figure), shapeRows survivors r,
    groups.map fun g => (g.members.length : Int), draws.yAxis, ?_, ?_, ?_, ?_, ?_⟩
  · rw [evaluate_of_accepted accepted, draws.run_eq_map_ofList]
  · rw [evaluate_of_accepted acceptedPlain, run_of_raw raw, filters]
  · rw [List.forall₂_map_left_iff, List.forall₂_map_right_iff, List.forall₂_same]
    intro g _
    exact draws.get?_groupRow_of_counts right counts g
  · intro n hn
    obtain ⟨g, -, rfl⟩ := List.mem_map.1 hn
    have member : 0 < g.members.length := List.length_pos_of_mem List.mem_cons_self
    omega
  · have total : (groups.map fun g => g.members.length).sum = survivors.length :=
      Group.sum_length_members (Row.key q.keyColumns) survivors
    rw [length_shapeRows, ← total, Nat.cast_list_sum, List.map_map]
    rfl

/-- The column on the y axis is a column to group by as well, and its cells are absent, texts or too
large for a number; a raw query without axes shows the same rows. -/
theorem evaluate_counts_add_up_keyed_y_axis :
    let wire : Value := .record
      [ ("xAxis", .str "k"), ("yAxis", .str "v"), ("aggregation", .str "Count"),
        ("groupBy", .list [.str "v"]),
        ("filters",
          .list [.record [("column", .str "k"), ("operator", .str "neq"), ("value", .str "c")]]) ]
    let plain : Value := .record
      [("filters",
        .list [.record [("column", .str " k"), ("operator", .str "NEQ"), ("value", .str "c")]])]
    let filters : List Predicate := [⟨"k", .neq, "c"⟩]
    let q : Query :=
      { xAxis := some "k", yAxis := some "v", aggregation := .count, groupBy := ["v"],
        filters := filters }
    let r : Query := { filters := filters }
    let rows : List Row :=
      [ .ofEntries [("k", .str "a")], .ofEntries [("k", .str "b"), ("v", .str "")],
        .ofEntries [("v", .int 1)],
        .ofEntries [("k", .str "a"), ("v", .int (10 ^ 400))],
        .ofEntries [("k", .str "c"), ("v", .str "x")] ]
    ofValue wire = .ok q ∧ q.aggregation = .count ∧ ofValue plain = .ok r ∧ r.aggregation = .raw ∧
      r.filters = q.filters ∧
      ∃ y result shown, ∃ ns : List Int, q.yAxis = some y ∧
        evaluate (some rows) wire .null = .ok result ∧
        evaluate (some rows) plain .null = .ok shown ∧
        List.Forall₂ (fun row n => row.get? y = some (.int n)) result ns ∧ (∀ n ∈ ns, 1 ≤ n) ∧
        ns.sum = shown.length := by
  intro wire plain filters q r rows
  have accepted : ofValue wire = .ok q := by decide +kernel
  have acceptedPlain : ofValue plain = .ok r := by decide +kernel
  exact ⟨accepted, rfl, acceptedPlain, rfl, rfl,
    evaluate_counts_add_up accepted rfl acceptedPlain rfl rfl rows .null⟩

end Query

end Tabulate
