import Mathlib.Data.List.Forall2
import Mathlib.Data.List.Sort
import Tabulate.Proofs.Store.Ids

/-!
# What a viewer cannot tell apart

Two stores are alike to a viewer if they differ in datasets only that the viewer must not see. Every
operation that the viewer asks for gives the same result for both, and leaves stores behind that are
alike again.
-/

namespace Tabulate

/-- Datasets that a viewer cannot tell apart: they are the same, or none of the viewer's
business. -/
def Dataset.Alike (viewer : Value) (d e : Dataset) : Prop :=
  d = e ∨ d.id = e.id ∧ d.visibleTo viewer = false ∧ e.visibleTo viewer = false

section Datasets

variable {viewer : Value} {d e : Dataset}

theorem Dataset.Alike.id (h : d.Alike viewer e) : d.id = e.id := by
  rcases h with rfl | ⟨same, -, -⟩
  · rfl
  · exact same

/-- A viewer sees the datasets that they own. -/
theorem Dataset.visibleTo_of_owner (h : d.owner.eqv viewer) : d.visibleTo viewer := by
  unfold Dataset.visibleTo
  split
  · rfl
  · exact h

end Datasets

section Lists

variable {viewer : Value} {ds es : List Dataset}

/-- Looking up an identifier finds the same visible dataset, or none that is visible. -/
theorem find?_of_alike (h : List.Forall₂ (Dataset.Alike viewer) ds es) (p : Nat → Bool) :
    (ds.find? (p ·.id) = es.find? (p ·.id)) ∨
      ∃ d e, ds.find? (p ·.id) = some d ∧ es.find? (p ·.id) = some e ∧
        d.visibleTo viewer = false ∧ e.visibleTo viewer = false := by
  induction h with
  | nil => exact .inl rfl
  | @cons d e ds es alike _ ih =>
    rw [List.find?_cons, List.find?_cons, ← alike.id]
    cases p d.id with
    | false => exact ih
    | true =>
      rcases alike with same | ⟨-, hidden, hidden'⟩
      · exact .inl (congrArg some same)
      · exact .inr ⟨d, e, rfl, rfl, hidden, hidden'⟩

theorem filter_visible_of_alike (h : List.Forall₂ (Dataset.Alike viewer) ds es) :
    ds.filter (·.visibleTo viewer) = es.filter (·.visibleTo viewer) := by
  induction h with
  | nil => rfl
  | @cons d e ds es alike _ ih =>
    rcases alike with rfl | ⟨-, hidden, hidden'⟩
    · rw [List.filter_cons, List.filter_cons, ih]
    · rw [List.filter_cons_of_neg (by simp [hidden]),
        List.filter_cons_of_neg (by simp [hidden']), ih]

theorem any_owned_of_alike (h : List.Forall₂ (Dataset.Alike viewer) ds es) (name : String) :
    (ds.any fun d => d.name == name && d.owner.eqv viewer) =
      es.any fun d => d.name == name && d.owner.eqv viewer := by
  have foreign {d : Dataset} (hidden : d.visibleTo viewer = false) :
      d.owner.eqv viewer = false := by
    rw [Bool.eq_false_iff] at hidden ⊢
    exact fun owner => hidden (Dataset.visibleTo_of_owner owner)
  induction h with
  | nil => rfl
  | @cons d e ds es alike _ ih =>
    rw [List.any_cons, List.any_cons, ih]
    rcases alike with rfl | ⟨-, hidden, hidden'⟩
    · rfl
    · rw [foreign hidden, foreign hidden', Bool.and_false, Bool.and_false]

end Lists

namespace Store

/-- Stores that hold the same datasets for a viewer, and others under the same identifiers. -/
structure Agree (viewer : Value) (s t : Store) : Prop where
  nextId : s.nextId = t.nextId
  ids : ∀ i, i ∈ s.datasets.map Dataset.id ↔ i ∈ t.datasets.map Dataset.id
  visible : ∀ d : Dataset, d.visibleTo viewer → (d ∈ s.datasets ↔ d ∈ t.datasets)

/-- Stores whose datasets a viewer cannot tell apart, one by one. -/
structure Alike (viewer : Value) (s t : Store) : Prop where
  nextId : s.nextId = t.nextId
  datasets : List.Forall₂ (Dataset.Alike viewer) s.datasets t.datasets

theorem Keyed.eq_of_id_eq {s : Store} (keyed : s.Keyed) {d e : Dataset} (hd : d ∈ s.datasets)
    (he : e ∈ s.datasets) (same : d.id = e.id) : d = e :=
  List.inj_on_of_nodup_map (keyed.increasing.imp Nat.ne_of_lt) hd he same

/-- In keyed stores that agree the datasets correspond one by one. -/
theorem Agree.alike {viewer : Value} {s t : Store} (agree : Agree viewer s t) (keyed : s.Keyed)
    (keyed' : t.Keyed) : Alike viewer s t := by
  have ids : s.datasets.map Dataset.id = t.datasets.map Dataset.id :=
    keyed.increasing.eq_of_mem_iff keyed'.increasing agree.ids
  have paired : List.Forall₂ (fun d e => Dataset.id d = Dataset.id e) s.datasets t.datasets := by
    rw [← List.forall₂_map_right_iff (R := fun d i => Dataset.id d = i), ← ids,
      List.forall₂_map_right_iff, List.forall₂_same]
    exact fun _ _ => rfl
  obtain ⟨length, same⟩ := List.forall₂_iff_zip.1 paired
  refine ⟨agree.nextId, List.forall₂_iff_zip.2 ⟨length, ?_⟩⟩
  intro d e h
  obtain ⟨hd, he⟩ := List.of_mem_zip h
  have id : d.id = e.id := same h
  cases visible : d.visibleTo viewer with
  | true => exact .inl (keyed'.eq_of_id_eq ((agree.visible d visible).1 hd) he id)
  | false =>
    cases visible' : e.visibleTo viewer with
    | true => exact .inl (keyed.eq_of_id_eq hd ((agree.visible e visible').2 he) id)
    | false => exact .inr ⟨id, visible, visible'⟩

section Operations

variable {viewer : Value} {s t : Store}

theorem Alike.size (h : Alike viewer s t) : s.size = t.size := h.datasets.length_eq

/-- A viewer gets the same dataset or the same fault. -/
theorem Alike.get (h : Alike viewer s t) (id : Value) : s.get id viewer = t.get id viewer := by
  have found := find?_of_alike h.datasets fun i => (Value.int i).eqv id
  unfold Store.get
  split
  · rfl
  · rfl
  · rcases found with same | ⟨d, e, hd, he, hidden, hidden'⟩
    · rw [same]
    · simp only [hd, he, hidden, hidden', Bool.false_eq_true, if_false]

/-- A viewer gets the same list. -/
theorem Alike.list (h : Alike viewer s t) : s.list viewer = t.list viewer := by
  rw [Store.list, Store.list, filter_visible_of_alike h.datasets]

/-- A name is taken among a viewer's own datasets, which they see. -/
theorem Alike.nameTaken (h : Alike viewer s t) (name : String) :
    s.nameTaken viewer name = t.nameTaken viewer name :=
  any_owned_of_alike h.datasets name

/-- What a viewer stores gets the same identifier. -/
theorem Alike.insert (h : Alike viewer s t) (now : Timestamp) (name : String) (rows : List Row)
    (owner : Value) :
    (s.insert now name rows owner).1 = (t.insert now name rows owner).1 ∧
      Alike viewer (s.insert now name rows owner).2 (t.insert now name rows owner).2 := by
  have same : (s.insert now name rows owner).1 = (t.insert now name rows owner).1 := by
    simp only [Store.insert, h.nextId]
  refine ⟨same, congrArg (· + 1) h.nextId, List.rel_append h.datasets (.cons (.inl same) .nil)⟩

theorem Alike.erase (h : Alike viewer s t) (id : Nat) :
    Alike viewer { s with datasets := s.datasets.filter (·.id != id) }
      { t with datasets := t.datasets.filter (·.id != id) } := by
  refine ⟨h.nextId, List.rel_filter ?_ h.datasets⟩
  intro d e alike
  simp only [alike.id]

/-- A viewer fails to store a dataset in both or in none, and then stores are alike again. -/
theorem Alike.create (h : Alike viewer s t) (now : Timestamp) (name rows : Value) :
    (∃ fault, s.create now name rows viewer = .error fault ∧
      t.create now name rows viewer = .error fault) ∨
      ∃ d s' t', s.create now name rows viewer = .ok (d, s') ∧
        t.create now name rows viewer = .ok (d, t') ∧ Alike viewer s' t' := by
  unfold Store.create
  cases datasetName name with
  | error fault => exact .inl ⟨fault, rfl, rfl⟩
  | ok base =>
    cases rows.members with
    | error fault => exact .inl ⟨fault, rfl, rfl⟩
    | ok values =>
      simp only [bind, Except.bind, h.nameTaken base]
      cases t.nameTaken viewer base with
      | true => exact .inl ⟨.conflict base, rfl, rfl⟩
      | false =>
        cases Row.ofValues values with
        | error fault => exact .inl ⟨fault, rfl, rfl⟩
        | ok rs =>
          obtain ⟨same, alike⟩ := h.insert now base rs viewer
          refine .inr ⟨_, (s.insert now base rs viewer).2,
            (t.insert now base rs viewer).2, ?_, rfl, alike⟩
          exact congrArg Except.ok (Prod.ext same rfl)

/-- So it is with deleting one. -/
theorem Alike.delete (h : Alike viewer s t) (id : Value) :
    (∃ fault, s.delete id viewer = .error fault ∧ t.delete id viewer = .error fault) ∨
      ∃ s' t', s.delete id viewer = .ok s' ∧ t.delete id viewer = .ok t' ∧ Alike viewer s' t' := by
  unfold Store.delete
  rw [h.get id]
  cases t.get id viewer with
  | error fault => exact .inl ⟨fault, rfl, rfl⟩
  | ok d => exact .inr ⟨_, _, rfl, rfl, h.erase d.id⟩

end Operations

end Store

end Tabulate
