import Mathlib.Data.List.Perm.Basic
import Tabulate.Columns

/-!
# The columns of rows

A row of entries for distinct columns has just these entries. The inferred columns of rows are
distinct, and they are the columns that occur in some row. Those of the rows in front come first.
-/

namespace Tabulate

/-! ### Rows of entries -/

section Entries

variable {κ : Type} [DecidableEq κ]

theorem setEntry_of_not_mem {key : κ} {entries : List (κ × Value)}
    (fresh : key ∉ entries.map Prod.fst) (v : Value) :
    setEntry key v entries = entries ++ [(key, v)] := by
  induction entries with
  | nil => rfl
  | cons entry rest ih =>
    obtain ⟨k, w⟩ := entry
    rw [List.map_cons, List.mem_cons, not_or] at fresh
    rw [setEntry, if_neg (Ne.symm fresh.1), ih fresh.2]
    rfl

/-- Setting a column to what it holds changes nothing. -/
theorem setEntry_lookup {key : κ} {v : Value} {entries : List (κ × Value)}
    (h : entries.lookup key = some v) : setEntry key v entries = entries := by
  induction entries with
  | nil => cases h
  | cons entry rest ih =>
    obtain ⟨k, w⟩ := entry
    by_cases same : k = key
    · subst same
      rw [List.lookup_cons_self] at h
      cases h
      simp [setEntry]
    · rw [List.lookup_cons, beq_false_of_ne (Ne.symm same)] at h
      rw [setEntry, if_neg same, ih h]

/-- An entry after a column was set is the new one or was there before. -/
theorem mem_setEntry {key : κ} {v : Value} {entries : List (κ × Value)} {entry : κ × Value}
    (h : entry ∈ setEntry key v entries) : entry = (key, v) ∨ entry ∈ entries := by
  induction entries with
  | nil => exact .inl (List.mem_singleton.1 h)
  | cons first rest ih =>
    obtain ⟨k, w⟩ := first
    by_cases same : k = key
    · rw [setEntry, if_pos same] at h
      rcases List.mem_cons.1 h with new | old
      · exact .inl new
      · exact .inr (List.mem_cons_of_mem _ old)
    · rw [setEntry, if_neg same] at h
      rcases List.mem_cons.1 h with here | later
      · exact .inr (here ▸ List.mem_cons_self)
      · rcases ih later with new | old
        · exact .inl new
        · exact .inr (List.mem_cons_of_mem _ old)

namespace Row

section Lookup

variable {row : Row κ} {column : κ}

theorem set_get? {v : Value} (h : row.get? column = some v) : row.set column v = row :=
  Row.ext (setEntry_lookup h)

/-- A row holds nothing in a column that it lacks. -/
theorem get?_eq_none (missing : column ∉ row.columns) : row.get? column = none := by
  rw [get?, List.lookup_eq_none_iff]
  intro entry hentry
  rw [bne_iff_ne]
  rintro rfl
  exact missing (List.mem_map.2 ⟨entry, hentry, rfl⟩)

end Lookup

theorem entries_foldl_set {entries : List (κ × Value)} {row : Row κ}
    (distinct : ((row.entries ++ entries).map Prod.fst).Nodup) :
    (entries.foldl (fun row entry => row.set entry.1 entry.2) row).entries =
      row.entries ++ entries := by
  induction entries generalizing row with
  | nil => rw [List.foldl_nil, List.append_nil]
  | cons entry rest ih =>
    have fresh : entry.1 ∉ row.entries.map Prod.fst := by
      rw [List.map_append, List.map_cons, List.nodup_append] at distinct
      intro taken
      exact distinct.2.2 entry.1 taken entry.1 List.mem_cons_self rfl
    have set : (row.set entry.1 entry.2).entries = row.entries ++ [entry] :=
      setEntry_of_not_mem fresh entry.2
    rw [List.foldl_cons, ih, set, List.append_assoc, List.singleton_append]
    rwa [set, List.append_assoc, List.singleton_append]

/-- The row of entries for distinct columns has these entries. -/
theorem entries_ofEntries {entries : List (κ × Value)} (distinct : (entries.map Prod.fst).Nodup) :
    (ofEntries entries).entries = entries :=
  entries_foldl_set distinct

/-- The record of a row describes the row. -/
theorem ofValue?_toValue (row : Row) : ofValue? row.toValue = some row := by
  have same : ofEntries row.entries = row := Row.ext (entries_ofEntries row.distinct)
  rw [toValue, ofValue?, same]

end Row

end Entries

/-! ### Inferred columns -/

theorem mem_addColumn {columns : List String} {column other : String} :
    other ∈ addColumn columns column ↔ other ∈ columns ∨ other = column := by
  unfold addColumn
  split
  · rename_i present
    constructor
    · intro h
      exact .inl h
    · rintro (h | rfl)
      · exact h
      · exact present
  · simp

theorem mem_foldl_addColumn {columns names : List String} {column : String} :
    column ∈ names.foldl addColumn columns ↔ column ∈ columns ∨ column ∈ names := by
  induction names generalizing columns with
  | nil => simp
  | cons name rest ih =>
    rw [List.foldl_cons, ih, mem_addColumn, List.mem_cons, or_assoc]

theorem nodup_foldl_addColumn {columns : List String} (h : columns.Nodup) (names : List String) :
    (names.foldl addColumn columns).Nodup := by
  induction names generalizing columns with
  | nil => exact h
  | cons name rest ih => exact ih (nodup_addColumn h name)

/-- Columns are added in their order, those that are there already left out. -/
theorem foldl_addColumn (columns names : List String) :
    names.foldl addColumn columns = columns ++ (names.foldl addColumn []).filter (· ∉ columns) := by
  induction names generalizing columns with
  | nil => simp
  | cons name rest ih =>
    have here : addColumn columns name = columns ++ [name].filter (· ∉ columns) := by
      by_cases present : name ∈ columns <;> simp [addColumn, present]
    have behind (others : List String) : others.filter (· ∉ addColumn columns name) =
        (others.filter (· ∉ [name])).filter (· ∉ columns) := by
      rw [List.filter_filter]
      refine List.filter_congr fun other _ => ?_
      simp [mem_addColumn]
    calc (name :: rest).foldl addColumn columns
        = addColumn columns name ++ (rest.foldl addColumn []).filter (· ∉ addColumn columns name) :=
          ih _
      _ = columns ++ ([name] ++ (rest.foldl addColumn []).filter (· ∉ [name])).filter
        (· ∉ columns) := by
        rw [behind, here, List.append_assoc, ← List.filter_append]
      _ = columns ++ ((name :: rest).foldl addColumn []).filter (· ∉ columns) := by
        rw [← ih [name]]; rfl

/-- Distinct columns are all added. -/
theorem foldl_addColumn_of_nodup {columns names : List String}
    (distinct : (columns ++ names).Nodup) : names.foldl addColumn columns = columns ++ names := by
  induction names generalizing columns with
  | nil => simp
  | cons name rest ih =>
    have fresh : name ∉ columns := fun present =>
      (List.nodup_append.1 distinct).2.2 name present name List.mem_cons_self rfl
    have added : addColumn columns name = columns ++ [name] := if_neg fresh
    rw [List.append_cons] at distinct
    rw [List.foldl_cons, added, ih distinct, ← List.append_cons]

/-- Going through the columns of all rows is going through the columns of one row after the
other. -/
theorem inferColumns_eq_foldl (rows : List Row) :
    inferColumns rows = (rows.flatMap Row.columns).foldl addColumn [] := by
  rw [inferColumns, List.foldl_flatMap]

/-- The inferred columns are distinct. -/
theorem nodup_inferColumns (rows : List Row) : (inferColumns rows).Nodup := by
  rw [inferColumns_eq_foldl]
  exact nodup_foldl_addColumn List.nodup_nil _

/-- The inferred columns are those that some row has. -/
theorem mem_inferColumns {rows : List Row} {column : String} :
    column ∈ inferColumns rows ↔ ∃ row ∈ rows, column ∈ row.columns := by
  rw [inferColumns_eq_foldl, mem_foldl_addColumn, List.mem_flatMap]
  simp

/-- Further rows add those of their columns that the rows before them lack. -/
theorem inferColumns_append (rows others : List Row) :
    inferColumns (rows ++ others) =
      inferColumns rows ++ (inferColumns others).filter (· ∉ inferColumns rows) := by
  simp only [inferColumns_eq_foldl, List.flatMap_append, List.foldl_append]
  exact foldl_addColumn _ _

theorem inferColumns_singleton (row : Row) : inferColumns [row] = row.columns := by
  rw [inferColumns_eq_foldl, List.flatMap_singleton]
  exact foldl_addColumn_of_nodup row.distinct

/-- The columns of the first row come first. -/
theorem columns_prefix_inferColumns (row : Row) (rest : List Row) :
    row.columns <+: inferColumns (row :: rest) := by
  have split := inferColumns_append [row] rest
  rw [inferColumns_singleton] at split
  exact ⟨_, split.symm⟩

/-- The order of rows does not matter for which columns there are. -/
theorem inferColumns_perm {rows others : List Row} (perm : rows.Perm others) :
    (inferColumns rows).Perm (inferColumns others) := by
  rw [List.perm_ext_iff_of_nodup (nodup_inferColumns rows) (nodup_inferColumns others)]
  intro column
  simp only [mem_inferColumns, perm.mem_iff]

end Tabulate
