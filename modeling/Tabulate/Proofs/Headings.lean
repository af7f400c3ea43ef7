import Tabulate.Proofs.Csv.Table
import Tabulate.Proofs.Store.WellFormed

/-!
# Headings

The columns of rows are the ordered union of the rows' own columns. They are the columns of a stored
dataset, and the header of a table whose columns are not given. So neither loses a column or has one
twice, in whatever order sparse rows stand.
-/

namespace Tabulate

/-- The columns of rows followed by others are those of the former and then, in their order, those
of the latter that are not among them. They are distinct, they are the columns that some row has,
and those of the first row come first; in another order the rows have the same columns. The header
of a table and the columns of a stored dataset are these. -/
theorem inferColumns_ordered_union :
    (∀ rows others : List Row,
      inferColumns (rows ++ others) =
        inferColumns rows ++ (inferColumns others).filter (· ∉ inferColumns rows)) ∧
    (∀ rows : List Row, (inferColumns rows).Nodup ∧
      ∀ column, column ∈ inferColumns rows ↔ ∃ row ∈ rows, column ∈ row.columns) ∧
    (∀ (row : Row) (rest : List Row), row.columns <+: inferColumns (row :: rest)) ∧
    (∀ rows others : List Row, rows.Perm others → (inferColumns rows).Perm (inferColumns others)) ∧
    (∀ rows : List Row, ∃ records,
      Csv.read (Csv.table rows []) = some (inferColumns rows :: records) ∧
      records.length = rows.length) ∧
    ∀ (start : Timestamp) (commands : List Command),
      ∀ d ∈ (Session.run ⟨.empty, start⟩ commands).1.store.datasets,
        d.columns = inferColumns d.rows := by
  refine ⟨inferColumns_append, ?_, columns_prefix_inferColumns,
    fun _ _ => inferColumns_perm, ?_, ?_⟩
  · exact fun rows => ⟨nodup_inferColumns rows, fun column => mem_inferColumns⟩
  · exact fun rows => ⟨_, Csv.read_table_fieldText rows [], by rw [List.length_map]⟩
  · intro start commands
    have wellFormed : (Session.run ⟨.empty, start⟩ commands).1.store.WellFormed :=
      Session.invariant_run .gain .erase Store.wellFormed_empty commands
    exact wellFormed.columns_eq

/-- Three rows of which none has all columns, in two orders, and the dataset that they are stored
in. -/
theorem inferColumns_ordered_union_sparse :
    let rows : List Row :=
      [.ofEntries [("b", .int 1)], .ofEntries [("a", .null), ("b", .int 2)],
        .ofEntries [("c", .int 3), ("a", .int 4)]]
    let create : Command := .create (.str "n") (.list (rows.map Row.toValue)) .null
    inferColumns rows = ["b", "a", "c"] ∧ rows.Perm rows.reverse ∧
      (inferColumns rows).Perm (inferColumns rows.reverse) ∧
      inferColumns rows.reverse = ["c", "a", "b"] ∧
      ∃ d ∈ (Session.run ⟨.empty, ⟨0⟩⟩ [create]).1.store.datasets,
        d.rows = rows ∧ d.columns = ["b", "a", "c"] := by
  intro rows create
  have columns : inferColumns rows = ["b", "a", "c"] := by decide
  have perm : rows.Perm rows.reverse := (List.reverse_perm rows).symm
  obtain ⟨-, -, -, reordered, -, stored⟩ := inferColumns_ordered_union
  obtain ⟨d, hd, held⟩ : ∃ d ∈ (Session.run ⟨.empty, ⟨0⟩⟩ [create]).1.store.datasets,
      d.rows = rows := by decide +kernel
  refine ⟨columns, perm, reordered rows _ perm, by decide, d, hd, held, ?_⟩
  rw [stored ⟨0⟩ [create] d hd, held, columns]

end Tabulate
