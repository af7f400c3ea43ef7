import Mathlib.Data.Nat.Init
import Tabulate.Proofs.Store.Ids
import Tabulate.Proofs.Store.Names
import Tabulate.Proofs.Value.Proper

/-!
# The search for a free name

A dataset whose name is taken is stored under the first numbered name that is free. The search for
it is a loop: check a name, and if it is taken go on with the next one. Nothing in the loop says
that it ends. `Search.Ends` is its execution, with the number of checks;
`Store.addUnique_least_name` shows that it ends, with which name and after how many checks, and how
a dataset that has to get its own name fares.
-/

namespace Tabulate.Store

/-- A search for a free name: the name to be checked, and the number that the one after it will
get. -/
structure Search where
  candidate : String
  counter : Nat

namespace Search

variable {taken : String → Bool} {base : String}

/-- A search starts with the base itself. -/
def start (base : String) : Search := ⟨base, 1⟩

/-- A search goes on with the base and the counter behind it. -/
def next (base : String) (search : Search) : Search :=
  ⟨base ++ " (" ++ search.counter.repr ++ ")", search.counter + 1⟩

/-- The search ends with a name that is free, after a number of checks. -/
inductive Ends (taken : String → Bool) (base : String) : Search → String → Nat → Prop where
  | free {search : Search} (free : taken search.candidate = false) :
      Ends taken base search search.candidate 1
  | goOn {search : Search} {name : String} {checks : Nat} (used : taken search.candidate = true)
      (rest : Ends taken base (search.next base) name checks) :
      Ends taken base search name (checks + 1)

/-- A search ends in one way only. -/
theorem Ends.unique {search : Search} {name other : String} {checks more : Nat}
    (h : Ends taken base search name checks) (h' : Ends taken base search other more) :
    name = other ∧ checks = more := by
  induction h generalizing other more with
  | free free =>
    cases h' with
    | free => exact ⟨rfl, rfl⟩
    | goOn used => simp [free] at used
  | goOn used rest ih =>
    cases h' with
    | free free => simp [free] at used
    | goOn _ rest' =>
      obtain ⟨same, checks⟩ := ih rest'
      exact ⟨same, congrArg (· + 1) checks⟩

/-- The search at its check of a numbered name. -/
def reached (base : String) (k : Nat) : Search := ⟨numbered base k, k + 1⟩

theorem reached_zero (base : String) : reached base 0 = start base := rfl

theorem next_reached (base : String) (k : Nat) :
    (reached base k).next base = reached base (k + 1) :=
  rfl

/-- From a numbered name on, a search ends at the first one that is free, if that is still to
come. -/
theorem ends_reached {k : Nat} (free : taken (numbered base k) = false)
    (used : ∀ j < k, taken (numbered base j)) {i : Nat} (before : i ≤ k) :
    Ends taken base (reached base i) (numbered base k) (k - i + 1) := by
  induction before using Nat.decreasingInduction with
  | self =>
    rw [Nat.sub_self]
    exact .free free
  | of_succ i hi ih =>
    have checks : k - i = k - (i + 1) + 1 := by omega
    rw [checks]
    refine .goOn (used i hi) ?_
    rw [next_reached]
    exact ih

/-- If a numbered name is free and none before it is, the search ends there, and nowhere else. -/
theorem ends_start_iff {k : Nat} (free : taken (numbered base k) = false)
    (used : ∀ j < k, taken (numbered base j)) {name : String} {checks : Nat} :
    Ends taken base (start base) name checks ↔ name = numbered base k ∧ checks = k + 1 := by
  have ends : Ends taken base (start base) (numbered base k) (k + 1) := by
    rw [← reached_zero]
    exact ends_reached free used (Nat.zero_le k)
  constructor
  · intro h
    exact h.unique ends
  · rintro ⟨rfl, rfl⟩
    exact ends

end Search

section Rows

variable (s : Store) (now : Timestamp) {name : String} (named : strip name ≠ "") (rows : List Row)
  (owner : Value)
include named

/-- Rows under a name that is not blank are always stored, under the first free name. -/
theorem addUnique_rows :
    s.addUnique now (.str name) (.list (rows.map Row.toValue)) owner =
      .ok (s.insert now (s.freeName owner (strip name)) rows owner) := by
  rw [addUnique, datasetName_str named]
  simp only [Value.members, bind, Except.bind, Row.ofValues_map_toValue]
  rfl

/-- Rows that must get the name itself are stored if it is free, and are in conflict with another
dataset if not. -/
theorem create_rows :
    s.create now (.str name) (.list (rows.map Row.toValue)) owner =
      if s.nameTaken owner (strip name) then .error (.conflict (strip name))
      else .ok (s.insert now (strip name) rows owner) := by
  rw [create, datasetName_str named]
  simp only [Value.members, bind, Except.bind, Row.ofValues_map_toValue]
  split <;> rfl

end Rows

/-- Rows are stored under the first of the names `base`, `base (1)`, `base (2)`, … that no dataset
of the owner has. The search for it ends, and makes at most one check more than the owner has
datasets. If the base itself must be the name, the same is stored in case it is free, and otherwise
there is a conflict. -/
theorem addUnique_least_name (s : Store) (now : Timestamp) {name : String} (named : strip name ≠ "")
    (rows : List Row) {owner : Value} (plain : owner = .null ∨ ∃ user, owner = .str user) :
    let base := strip name
    let table : Value := .list (rows.map Row.toValue)
    ∃ k, (∀ d ∈ s.datasets, d.owner = owner → d.name ≠ numbered base k) ∧
      (∀ j < k, ∃ d ∈ s.datasets, d.owner = owner ∧ d.name = numbered base j) ∧
      s.addUnique now (.str name) table owner = .ok (s.insert now (numbered base k) rows owner) ∧
      (∀ found checks, Search.Ends (s.nameTaken owner) base (.start base) found checks ↔
        found = numbered base k ∧ checks = k + 1) ∧
      k + 1 ≤ (s.datasets.filter (·.owner = owner)).length + 1 ∧
      s.create now (.str name) table owner =
        if k = 0 then s.addUnique now (.str name) table owner else .error (.conflict base) := by
  intro base table
  obtain ⟨k, few, chosen, free, used⟩ := s.exists_freeName owner base
  have owned : s.ownedBy owner = s.datasets.filter (·.owner = owner) := by
    refine List.filter_congr ?_
    intro d _
    rw [Bool.eq_iff_iff, decide_eq_true_iff]
    exact Value.eqv_iff_eq plain d.owner
  have stored : s.addUnique now (.str name) table owner =
      .ok (s.insert now (numbered base k) rows owner) := by
    rw [addUnique_rows s now named rows owner, chosen]
  refine ⟨k, ?_, ?_, stored, ?_, ?_, ?_⟩
  · intro d hd mine same
    have clash : s.nameTaken owner (numbered base k) :=
      nameTaken_iff.2 ⟨d, hd, same, (Value.eqv_iff_eq plain d.owner).2 mine⟩
    rw [free] at clash
    cases clash
  · intro j hj
    obtain ⟨d, hd, same, mine⟩ := nameTaken_iff.1 (used j hj)
    exact ⟨d, hd, (Value.eqv_iff_eq plain d.owner).1 mine, same⟩
  · intro found checks
    exact Search.ends_start_iff free used
  · rw [← owned]
    exact Nat.succ_le_succ few
  · rw [create_rows s now named rows owner, stored]
    cases k with
    | zero =>
      have free : s.nameTaken owner (strip name) = false := free
      rw [free]
      rfl
    | succ k =>
      have used : s.nameTaken owner base := used 0 (Nat.succ_pos k)
      rw [if_pos used, if_neg (Nat.succ_ne_zero k)]

/-- A deletion has left a gap, and the name that fills it is one of Bob's datasets, but not of
Ann's. -/
theorem addUnique_least_name_gap :
    let table (id : Nat) (name owner : String) : Dataset := ⟨id, name, [], [], .str owner, ⟨0⟩⟩
    let s : Store :=
      ⟨[table 1 "x" "ann", table 2 "x (1)" "ann", table 4 "x (3)" "ann", table 5 "x (2)" "bob"], 6⟩
    strip " x\n" ≠ "" ∧
      s.addUnique ⟨0⟩ (.str " x\n") (.list []) (.str "ann") =
        .ok (s.insert ⟨0⟩ "x (2)" [] (.str "ann")) ∧
      Search.Ends (s.nameTaken (.str "ann")) "x" (.start "x") "x (2)" 3 ∧
      s.create ⟨0⟩ (.str " x\n") (.list []) (.str "ann") = .error (.conflict "x") := by
  intro table s
  have named : strip " x\n" ≠ "" := by decide +kernel
  have base : strip " x\n" = "x" := by decide +kernel
  have plain : Value.str "ann" = .null ∨ ∃ user, Value.str "ann" = .str user := .inr ⟨"ann", rfl⟩
  obtain ⟨k, free, used, stored, ends, -, refused⟩ := s.addUnique_least_name ⟨0⟩ named [] plain
  rw [base] at free used stored ends refused
  obtain rfl : k = 2 := by
    have above : ¬ 2 < k := by
      intro later
      obtain ⟨d, hd, mine, same⟩ := used 2 later
      revert d
      decide +kernel
    have not0 : k ≠ 0 := by
      rintro rfl
      exact free (table 1 "x" "ann") (by simp [s]) rfl rfl
    have not1 : k ≠ 1 := by
      rintro rfl
      exact free (table 2 "x (1)" "ann") (by simp [s]) rfl (by decide +kernel)
    omega
  have two : numbered "x" 2 = "x (2)" := by decide +kernel
  rw [two] at stored ends
  exact ⟨named, stored, (ends _ _).2 ⟨rfl, rfl⟩, refused⟩

end Tabulate.Store
