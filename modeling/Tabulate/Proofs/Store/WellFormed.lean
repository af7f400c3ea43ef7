import Mathlib.Data.List.Pairwise
import Tabulate.Proofs.Columns
import Tabulate.Proofs.Store.Steps
import Tabulate.Proofs.Value.Proper

/-!
# Well-formed stores

A store is well-formed if no owner has two datasets of one name, identifiers count up from one,
names are trimmed, and the columns of each dataset are those of its rows. `Session.wellFormed_run`
shows that commands lead to no other stores from the empty one.

Storing looks for a dataset whose owner is equal to the new one, in this order. For proper owners
the order does not matter, so any two datasets of one name have different owners.
-/

namespace Tabulate

namespace Store

/-- What holds of the datasets of a store at all times. -/
structure WellFormed (s : Store) : Prop extends Keyed s where
  unique : s.datasets.Pairwise fun d e => d.name = e.name → d.owner.eqv e.owner = false
  nextId_pos : 1 ≤ s.nextId
  id_pos : ∀ d ∈ s.datasets, 1 ≤ d.id
  isName : ∀ d ∈ s.datasets, IsName d.name
  columns_eq : ∀ d ∈ s.datasets, d.columns = inferColumns d.rows

theorem wellFormed_empty : WellFormed empty where
  toKeyed := keyed_empty
  unique := .nil
  nextId_pos := Nat.le_refl 1
  id_pos := by simp [empty]
  isName := by simp [empty]
  columns_eq := by simp [empty]

/-- A dataset under a name that is free keeps a store well-formed. -/
theorem WellFormed.gain {s t : Store} {d : Dataset} (h : s.WellFormed) (gains : s.Gains d t) :
    t.WellFormed where
  toKeyed := h.toKeyed.insert gains.inserted
  unique := by
    rw [gains.datasets_eq, List.pairwise_append]
    refine ⟨h.unique, List.pairwise_singleton _ _, ?_⟩
    -- only the new dataset can clash with another one, and its name was free for its owner
    intro e he new hnew named
    obtain rfl := List.mem_singleton.1 hnew
    by_contra owned
    have taken : s.nameTaken new.owner new.name :=
      nameTaken_iff.2 ⟨e, he, named, by simpa using owned⟩
    rw [gains.free] at taken
    cases taken
  nextId_pos := by
    rw [gains.nextId_eq]
    exact Nat.le_add_left 1 _
  id_pos := by
    intro e he
    rcases gains.mem_iff.1 he with he | rfl
    · exact h.id_pos e he
    · rw [gains.id_eq]
      exact h.nextId_pos
  isName := by
    intro e he
    rcases gains.mem_iff.1 he with he | rfl
    · exact h.isName e he
    · exact gains.isName
  columns_eq := by
    intro e he
    rcases gains.mem_iff.1 he with he | rfl
    · exact h.columns_eq e he
    · exact gains.columns_eq

/-- Deleting keeps a store well-formed: there are fewer datasets, and the next identifier stays as
it was. -/
theorem WellFormed.erase {s : Store} (i : Nat) (h : s.WellFormed) : (s.erase i).WellFormed := by
  have fewer : (s.erase i).datasets.Sublist s.datasets := List.filter_sublist
  exact
    { increasing := h.increasing.sublist (fewer.map Dataset.id)
      below := fun d hd => h.below d (fewer.subset hd)
      unique := h.unique.sublist fewer
      nextId_pos := h.nextId_pos
      id_pos := fun d hd => h.id_pos d (fewer.subset hd)
      isName := fun d hd => h.isName d (fewer.subset hd)
      columns_eq := fun d hd => h.columns_eq d (fewer.subset hd) }

/-- Datasets do not have the same name and the same owner. -/
def Differ (d e : Dataset) : Prop :=
  d.name = e.name → d.owner.Proper → e.owner.Proper → d.owner.eqv e.owner = false

instance : Std.Symm Differ where
  symm d e differ named proper proper' := by
    rw [Value.eqv_comm proper proper']
    exact differ named.symm proper' proper

/-- In a well-formed store two datasets of one name have different owners, whichever was stored
first. -/
theorem WellFormed.differ {s : Store} (h : s.WellFormed) {d e : Dataset} (hd : d ∈ s.datasets)
    (he : e ∈ s.datasets) (other : d ≠ e) : Differ d e := by
  have differ : s.datasets.Pairwise Differ := h.unique.imp fun owners named _ _ => owners named
  exact differ.forall hd he other

end Store

namespace Session

/-- Whatever commands are carried out from the empty store on: identifiers increase in the order of
storing, from one up and below the next one; names are trimmed and not empty; no two datasets have
the same name and equal owners; and the columns of a dataset are distinct and the ones that its rows
have. -/
theorem wellFormed_run (start : Timestamp) (commands : List Command) :
    let s := (Session.run ⟨.empty, start⟩ commands).1.store
    s.datasets.Pairwise (fun d e => d.name = e.name → d.owner.eqv e.owner = false) ∧
      (∀ d ∈ s.datasets, ∀ e ∈ s.datasets, d ≠ e → d.name = e.name →
        d.owner.Proper → e.owner.Proper → d.owner.eqv e.owner = false) ∧
      s.datasets.Pairwise (fun d e => d.id < e.id) ∧
      (∀ d ∈ s.datasets, 1 ≤ d.id ∧ d.id < s.nextId) ∧
      (∀ d ∈ s.datasets, d.name ≠ "" ∧ strip d.name = d.name) ∧
      ∀ d ∈ s.datasets, d.columns.Nodup ∧
        (∀ row ∈ d.rows, ∀ column ∈ row.columns, column ∈ d.columns) ∧
        ∀ column ∈ d.columns, ∃ row ∈ d.rows, column ∈ row.columns := by
  intro s
  have h : s.WellFormed := invariant_run .gain .erase Store.wellFormed_empty commands
  refine ⟨h.unique, ?_, List.pairwise_map.1 h.increasing, ?_, h.isName, ?_⟩
  · intro d hd e he other
    exact h.differ hd he other
  · intro d hd
    exact ⟨h.id_pos d hd, h.below d hd⟩
  · intro d hd
    rw [h.columns_eq d hd]
    refine ⟨nodup_inferColumns d.rows, ?_, ?_⟩
    · intro row hrow column hcolumn
      exact mem_inferColumns.2 ⟨row, hrow, hcolumn⟩
    · intro column hcolumn
      exact mem_inferColumns.1 hcolumn

end Session

end Tabulate
