import Tabulate.Value.Equality

/-!
# Rows

A row gives values to columns. Its columns are distinct and keep the order in which they were first
given a value; a new value for a column takes the old one's place. Columns are named by texts as a
rule; other kinds of names serve where a column may have no name.
-/

namespace Tabulate

section Entries

variable {κ : Type} [DecidableEq κ]

/-- Entries with the value of `key` set: in its place if there is one, at the end otherwise. -/
def setEntry (key : κ) (v : Value) : List (κ × Value) → List (κ × Value)
  | [] => [(key, v)]
  | (k, w) :: rest => if k = key then (key, v) :: rest else (k, w) :: setEntry key v rest

theorem map_fst_setEntry (key : κ) (v : Value) (entries : List (κ × Value)) :
    (setEntry key v entries).map Prod.fst =
      if key ∈ entries.map Prod.fst then entries.map Prod.fst
      else entries.map Prod.fst ++ [key] := by
  induction entries with
  | nil => rfl
  | cons entry rest ih =>
    obtain ⟨k, w⟩ := entry
    by_cases h : k = key
    · simp [setEntry, h]
    · simp only [setEntry, h, if_false, List.map_cons, ih, List.mem_cons, Ne.symm h, false_or]
      split <;> simp

theorem lookup_setEntry (key other : κ) (v : Value) (entries : List (κ × Value)) :
    (setEntry key v entries).lookup other =
      if other = key then some v else entries.lookup other := by
  induction entries with
  | nil =>
    by_cases h : other = key
    · simp [setEntry, h]
    · simp [setEntry, List.lookup_cons, beq_false_of_ne h, h]
  | cons entry rest ih =>
    obtain ⟨k, w⟩ := entry
    by_cases hk : k = key
    · by_cases h : other = key
      · simp [setEntry, hk, h]
      · simp [setEntry, hk, List.lookup_cons, beq_false_of_ne h, h]
    · by_cases h : other = k
      · simp [setEntry, hk, h]
      · simp [setEntry, hk, List.lookup_cons, beq_false_of_ne h, ih]

end Entries

/-- Values of distinct columns, in order. -/
structure Row (κ : Type := String) where
  entries : List (κ × Value)
  distinct : (entries.map Prod.fst).Nodup
  deriving DecidableEq

namespace Row

variable {κ : Type}

/-- The row without columns. -/
def empty : Row κ := ⟨[], List.nodup_nil⟩

instance : Inhabited (Row κ) := ⟨empty⟩

/-- The columns that the row has values for. -/
def columns (row : Row κ) : List κ := row.entries.map Prod.fst

@[ext] theorem ext {r s : Row κ} (h : r.entries = s.entries) : r = s := by
  cases r; cases s; simpa using h

variable [DecidableEq κ]

/-- The value of a column. -/
def get? (row : Row κ) (column : κ) : Option Value := row.entries.lookup column

/-- The row with the value of one column set. -/
def set (row : Row κ) (column : κ) (v : Value) : Row κ where
  entries := setEntry column v row.entries
  distinct := by
    rw [map_fst_setEntry]
    split
    · exact row.distinct
    · rename_i fresh
      exact List.nodup_append.2 ⟨row.distinct, by simp, by
        intro a ha b hb
        simp only [List.mem_singleton] at hb
        rintro rfl
        exact fresh (hb ▸ ha)⟩

/-- Setting a column adds it to the columns unless it is one already. -/
theorem columns_set (row : Row κ) (column : κ) (v : Value) :
    (row.set column v).columns =
      if column ∈ row.columns then row.columns else row.columns ++ [column] :=
  map_fst_setEntry column v row.entries

/-- A column that was set has its new value, and the others are as they were. -/
theorem get?_set (row : Row κ) (column other : κ) (v : Value) :
    (row.set column v).get? other = if other = column then some v else row.get? other :=
  lookup_setEntry column other v row.entries

/-- The row of a list of entries. Of two entries for one column the later value counts, in the
earlier place. -/
def ofEntries (entries : List (κ × Value)) : Row κ :=
  entries.foldl (fun row entry => row.set entry.1 entry.2) empty

/-- The row that a record describes; other values describe none. -/
def ofValue? : Value → Option Row
  | .record fields => some (ofEntries fields)
  | _ => none

/-- The record of a row's entries. -/
def toValue (row : Row) : Value := .record row.entries

end Row

end Tabulate
