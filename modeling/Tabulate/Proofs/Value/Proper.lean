import Mathlib.Data.List.Nodup
import Mathlib.Data.List.Perm.Subperm
import Tabulate.Value.Equality

/-!
# Proper values

A value is proper if the keys of every record in it are distinct. Whether two proper values are
equal as owners does not depend on which of them comes first: the fields of records are compared by
key, and as many keys of one record as the other has are all of its keys. Nothing and texts are
equal to themselves only.
-/

namespace Tabulate.Value

mutual

/-- Whether the keys of all records in a value are distinct. -/
def Proper : Value → Prop
  | list items => ProperItems items
  | record fields => (fields.map Prod.fst).Nodup ∧ ProperFields fields
  | _ => True

/-- Whether all items of a list are proper. -/
def ProperItems : List Value → Prop
  | [] => True
  | v :: rest => v.Proper ∧ ProperItems rest

/-- Whether all values of a record are proper. -/
def ProperFields : List (String × Value) → Prop
  | [] => True
  | (_, v) :: rest => v.Proper ∧ ProperFields rest

end

theorem properItems_iff {items : List Value} : ProperItems items ↔ ∀ v ∈ items, v.Proper := by
  induction items with
  | nil => simp [ProperItems]
  | cons v rest ih => simp [ProperItems, ih]

theorem properFields_iff {fields : List (String × Value)} :
    ProperFields fields ↔ ∀ f ∈ fields, f.2.Proper := by
  induction fields with
  | nil => simp [ProperFields]
  | cons f rest ih => simp [ProperFields, ih]

/-! ### Records and their keys -/

section Lookup

variable {fields : List (String × Value)} {key : String} {v : Value}

theorem mem_of_lookup (h : fields.lookup key = some v) : (key, v) ∈ fields := by
  induction fields with
  | nil => cases h
  | cons f rest ih =>
    obtain ⟨k, w⟩ := f
    by_cases same : key = k
    · subst same
      rw [List.lookup_cons_self] at h
      cases h
      exact List.mem_cons_self
    · rw [List.lookup_cons, beq_false_of_ne same] at h
      exact List.mem_cons_of_mem _ (ih h)

/-- If keys are distinct, each field is found under its key. -/
theorem lookup_of_mem (distinct : (fields.map Prod.fst).Nodup) (h : (key, v) ∈ fields) :
    fields.lookup key = some v := by
  induction fields with
  | nil => cases h
  | cons f rest ih =>
    obtain ⟨k, w⟩ := f
    rw [List.map_cons, List.nodup_cons] at distinct
    rcases List.mem_cons.1 h with same | h
    · cases same
      rw [List.lookup_cons_self]
    · have other : key ≠ k := by
        intro same
        exact distinct.1 (List.mem_map.2 ⟨(key, v), h, same⟩)
      rw [List.lookup_cons, beq_false_of_ne other]
      exact ih distinct.2 h

end Lookup

/-- Each field of the first record has an equal one of the same key in the second. -/
theorem alikeFields_iff {fields others : List (String × Value)} :
    alikeFields fields others ↔ ∀ f ∈ fields, ∃ w, others.lookup f.1 = some w ∧ f.2.alike w := by
  induction fields with
  | nil => simp [alikeFields]
  | cons f rest ih =>
    obtain ⟨key, v⟩ := f
    rw [alikeFields, Bool.and_eq_true, ih, List.forall_mem_cons]
    cases others.lookup key <;> simp

/-! ### Symmetry -/

theorem numEq_comm (x y : Binary64) : x.numEq y = y.numEq x := by
  unfold Binary64.numEq
  cases x.rank <;> cases y.rank <;> simp [eq_comm]

theorem alikeItems_symm {xs ys : List Value} (symm : ∀ x ∈ xs, ∀ y ∈ ys, x.alike y → y.alike x)
    (h : alikeItems xs ys) : alikeItems ys xs := by
  induction xs generalizing ys with
  | nil =>
    cases ys with
    | nil => rfl
    | cons y ys => cases h
  | cons x xs ih =>
    cases ys with
    | nil => cases h
    | cons y ys =>
      rw [alikeItems, Bool.and_eq_true] at h ⊢
      refine ⟨symm x List.mem_cons_self y List.mem_cons_self h.1, ih ?_ h.2⟩
      intro a ha b hb
      exact symm a (List.mem_cons_of_mem _ ha) b (List.mem_cons_of_mem _ hb)

theorem alikeFields_symm {fs gs : List (String × Value)}
    (symm : ∀ f ∈ fs, ∀ g ∈ gs, f.2.alike g.2 → g.2.alike f.2) (distinct : (fs.map Prod.fst).Nodup)
    (distinct' : (gs.map Prod.fst).Nodup) (length : fs.length = gs.length) (h : alikeFields fs gs) :
    alikeFields gs fs := by
  rw [alikeFields_iff] at h ⊢
  have keys : fs.map Prod.fst ⊆ gs.map Prod.fst := by
    intro key hkey
    obtain ⟨f, hf, rfl⟩ := List.mem_map.1 hkey
    obtain ⟨w, found, -⟩ := h f hf
    exact List.mem_map.2 ⟨(f.1, w), mem_of_lookup found, rfl⟩
  -- distinct keys that are as many as there are fields are the keys of all fields
  have all : (fs.map Prod.fst).Perm (gs.map Prod.fst) :=
    (distinct.subperm keys).perm_of_length_le (by simp [length])
  intro g hg
  have key : g.1 ∈ fs.map Prod.fst := all.symm.subset (List.mem_map.2 ⟨g, hg, rfl⟩)
  obtain ⟨f, hf, same⟩ := List.mem_map.1 key
  obtain ⟨w, found, alike⟩ := h f hf
  have value : w = g.2 := by
    have here : gs.lookup f.1 = some g.2 := lookup_of_mem distinct' (same ▸ hg)
    exact Option.some.inj (found.symm.trans here)
  exact ⟨f.2, lookup_of_mem distinct (same ▸ hf), symm f hf g hg (value ▸ alike)⟩

/-- Equality inside lists and records is symmetric. -/
theorem alike_symm : ∀ {v w : Value}, v.Proper → w.Proper → v.alike w → w.alike v
  | list xs, w, hv, hw, h => by
    cases w
    case list ys =>
      rw [Proper, properItems_iff] at hv hw
      refine alikeItems_symm ?_ h
      intro x hx y hy
      exact alike_symm (hv x hx) (hw y hy)
    all_goals cases h
  | record fs, w, hv, hw, h => by
    cases w
    case record gs =>
      rw [Proper, properFields_iff] at hv hw
      rw [alike, Bool.and_eq_true, beq_iff_eq] at h ⊢
      refine ⟨h.1.symm, alikeFields_symm ?_ hv.1 hw.1 h.1 h.2⟩
      intro f hf g hg
      exact alike_symm (hv.2 f hf) (hw.2 g hg)
    all_goals cases h
  | float x, w, hv, hw, h => by
    cases w
    case float y => rwa [alike, numEq_comm, Bool.and_comm]
    all_goals exact h
  | null, w, hv, hw, h => by cases w <;> exact h
  | missing, w, hv, hw, h => by cases w <;> exact h
  | str s, w, hv, hw, h => by
    cases w
    case str t => exact beq_iff_eq.2 (beq_iff_eq.1 h).symm
    all_goals cases h
  | bool b, w, hv, hw, h => by
    cases w
    case bool c => exact beq_iff_eq.2 (beq_iff_eq.1 h).symm
    case int i => exact beq_iff_eq.2 (beq_iff_eq.1 h).symm
    case float x => exact h
    all_goals cases h
  | int i, w, hv, hw, h => by
    cases w
    case bool b => exact beq_iff_eq.2 (beq_iff_eq.1 h).symm
    case int j => exact beq_iff_eq.2 (beq_iff_eq.1 h).symm
    case float x => exact h
    all_goals cases h
termination_by v => sizeOf v
decreasing_by
  · have := List.sizeOf_lt_of_mem hx
    simp
    omega
  · have := List.sizeOf_lt_of_mem hf
    obtain ⟨key, value⟩ := f
    simp at this ⊢
    omega

/-- Proper values are equal by value or not, whichever comes first. -/
theorem eqv_comm {v w : Value} (hv : v.Proper) (hw : w.Proper) : v.eqv w = w.eqv v := by
  have alike_comm : v.alike w = w.alike v := by
    rw [Bool.eq_iff_iff]
    exact ⟨alike_symm hv hw, alike_symm hw hv⟩
  cases v
  case float x =>
    cases w
    case float y => exact numEq_comm x y
    all_goals exact alike_comm
  all_goals
    cases w
    all_goals exact alike_comm

/-- Nothing and texts are equal by value to themselves only. -/
theorem eqv_iff_eq {owner : Value} (plain : owner = .null ∨ ∃ user, owner = .str user) (v : Value) :
    v.eqv owner ↔ v = owner := by
  obtain rfl | ⟨user, rfl⟩ := plain
  all_goals cases v <;> simp [eqv, alike]

end Tabulate.Value
