import Mathlib.Data.List.Nodup
import Mathlib.Data.List.Perm.Subperm
import Tabulate.Proofs.Query.Normal
import Tabulate.Store

/-!
# Names of datasets

A name that is taken gets a number behind it. The numbered names of a base are distinct, so one of
the first of them is free, and each is trimmed if the base is. `Store.exists_freeName` says which
one is chosen.
-/

namespace Tabulate.Store

/-! ### Numbered names -/

/-- Only texts give names to datasets, and trimmed ones. -/
theorem datasetName_eq_ok {name : Value} {base : String} (h : datasetName name = .ok base) :
    ∃ s, name = .str s ∧ strip s = base ∧ base ≠ "" := by
  obtain ⟨truth, -, h⟩ := bind_eq_ok.1 h
  cases truth with
  | false => cases h
  | true =>
    cases name with
    | str s =>
      by_cases blank : strip s = ""
      · have h := (if_pos blank).symm.trans h
        cases h
      · have h := (if_neg blank).symm.trans h
        cases h
        exact ⟨s, rfl, rfl, blank⟩
    | _ => cases h

/-- A text that is not blank names a dataset. -/
theorem datasetName_str {name : String} (named : strip name ≠ "") :
    datasetName (.str name) = .ok (strip name) := by
  have nonempty : name ≠ "" := by
    rintro rfl
    exact named rfl
  simp only [datasetName, Value.truth_str nonempty, bind, Except.bind, if_true, if_neg named]
  rfl

theorem isName_of_datasetName {name : Value} {base : String} (h : datasetName name = .ok base) :
    IsName base := by
  obtain ⟨s, -, rfl, nonempty⟩ := datasetName_eq_ok h
  exact ⟨nonempty, strip_strip s⟩

theorem toList_numbered_succ (base : String) (k : Nat) :
    (numbered base (k + 1)).toList =
      base.toList ++ ([' ', '('] ++ Nat.toDigits 10 (k + 1) ++ [')']) := by
  simp [numbered, String.toList_append]

/-- Different numbers give different names. -/
theorem numbered_injective (base : String) : Function.Injective (numbered base) := by
  intro i j same
  have same : (numbered base i).toList = (numbered base j).toList := congrArg String.toList same
  cases i with
  | zero =>
    cases j with
    | zero => rfl
    | succ j =>
      rw [toList_numbered_succ] at same
      exact absurd (congrArg List.length same) (by simp [numbered])
  | succ i =>
    cases j with
    | zero =>
      rw [toList_numbered_succ] at same
      exact absurd (congrArg List.length same) (by simp [numbered])
    | succ j =>
      rw [toList_numbered_succ, toList_numbered_succ] at same
      have digits : Nat.toDigits 10 (i + 1) = Nat.toDigits 10 (j + 1) :=
        List.append_cancel_left (List.append_cancel_right (List.append_cancel_left same))
      have numbers := congrArg (fun ds => Nat.ofDigitChars 10 ds 0) digits
      simpa only [Nat.ofDigitChars_ten_toDigits] using numbers

/-- A numbered name is trimmed: it starts as the base does and ends with a bracket. -/
theorem isName_numbered {base : String} (h : IsName base) (k : Nat) : IsName (numbered base k) := by
  cases k with
  | zero => exact h
  | succ k =>
    obtain ⟨nonempty, trimmed⟩ := h
    have nonempty : base.toList ≠ [] := by simpa using nonempty
    have trimmed : trim isBlank base.toList = base.toList := by
      have := congrArg String.toList trimmed
      simpa [strip] using this
    have front : ∀ c ∈ (numbered base (k + 1)).toList.head?, isBlank c = false := by
      intro c hc
      rw [toList_numbered_succ, List.head?_append_of_ne_nil _ nonempty, ← trimmed] at hc
      exact (trim_ends isBlank base.toList).1 c hc
    have back : ∀ c ∈ (numbered base (k + 1)).toList.getLast?, isBlank c = false := by
      intro c hc
      rw [toList_numbered_succ, ← List.append_assoc, List.getLast?_concat] at hc
      obtain rfl : ')' = c := Option.some.inj hc
      decide
    constructor
    · intro empty
      have : (numbered base (k + 1)).toList = [] := by rw [empty]; rfl
      rw [toList_numbered_succ] at this
      simp at this
    · rw [strip, trim_eq_self front back, String.ofList_toList]

/-! ### The name that is chosen -/

theorem nameTaken_iff {s : Store} {owner : Value} {name : String} :
    s.nameTaken owner name ↔ ∃ d ∈ s.datasets, d.name = name ∧ d.owner.eqv owner := by
  simp [nameTaken]

/-- The datasets that an owner has. -/
def ownedBy (s : Store) (owner : Value) : List Dataset := s.datasets.filter (·.owner.eqv owner)

/-- Of as many numbered names as the owner has datasets, and one more, one is free. -/
theorem exists_free (s : Store) (owner : Value) (base : String) :
    ∃ k ≤ (s.ownedBy owner).length, s.nameTaken owner (numbered base k) = false := by
  by_contra none
  have taken : ∀ k ≤ (s.ownedBy owner).length, s.nameTaken owner (numbered base k) := by
    intro k hk
    by_contra free
    exact none ⟨k, hk, by simpa using free⟩
  let tried := (List.range ((s.ownedBy owner).length + 1)).map (numbered base)
  have distinct : tried.Nodup := List.Nodup.map (numbered_injective base) List.nodup_range
  have used : tried ⊆ (s.ownedBy owner).map Dataset.name := by
    intro name h
    obtain ⟨k, hk, rfl⟩ := List.mem_map.1 h
    have bound : k ≤ (s.ownedBy owner).length := Nat.le_of_lt_succ (List.mem_range.1 hk)
    obtain ⟨d, hd, named, owned⟩ := nameTaken_iff.1 (taken k bound)
    exact List.mem_map.2 ⟨d, List.mem_filter.2 ⟨hd, owned⟩, named⟩
  have few : tried.length ≤ ((s.ownedBy owner).map Dataset.name).length :=
    (distinct.subperm used).length_le
  simp only [tried, List.length_map, List.length_range] at few
  omega

/-- The name that is chosen is free and has the lowest number of all that are; the number is at most
that of the datasets which the owner has. -/
theorem exists_freeName (s : Store) (owner : Value) (base : String) :
    ∃ k ≤ (s.ownedBy owner).length, s.freeName owner base = numbered base k ∧
      s.nameTaken owner (numbered base k) = false ∧
      ∀ j < k, s.nameTaken owner (numbered base j) := by
  obtain ⟨i, few, free⟩ := s.exists_free owner base
  have bound : i < s.size + 1 := by
    have owned : (s.ownedBy owner).length ≤ s.size := List.length_filter_le _ _
    omega
  cases found : (List.range (s.size + 1)).find? fun k => !s.nameTaken owner (numbered base k) with
  | none =>
    have taken := List.find?_eq_none.1 found i (List.mem_range.2 bound)
    simp [free] at taken
  | some k =>
    obtain ⟨freeK, -, before⟩ := List.find?_range_eq_some.1 found
    have least : ∀ j < k, s.nameTaken owner (numbered base j) := by
      intro j hj
      simpa using before j hj
    have lower : k ≤ i := by
      by_contra higher
      have taken := least i (by omega)
      rw [free] at taken
      cases taken
    refine ⟨k, by omega, ?_, by simpa using freeK, least⟩
    rw [freeName, List.find?_map]
    have same : (fun name => !s.nameTaken owner name) ∘ numbered base =
        fun k => !s.nameTaken owner (numbered base k) := rfl
    rw [same, found]
    rfl

end Tabulate.Store
