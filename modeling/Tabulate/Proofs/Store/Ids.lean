import Tabulate.Proofs.Columns
import Tabulate.Store.Session

/-!
# The identifiers of a store

What the operations of a store do when they succeed, and what they keep: identifiers increase in the
order in which datasets were stored, and the next one is higher than all of them. Every store that
commands lead to from the empty one is keyed in this way.
-/

namespace Tabulate

theorem Row.ofValues_map_toValue (rows : List Row) : ofValues (rows.map toValue) = .ok rows := by
  induction rows with
  | nil => rfl
  | cons row rest ih => simp only [List.map_cons, ofValues, ofValue?_toValue, ih]; rfl

namespace Store

/-! ### What operations do -/

/-- A new dataset is stored under the given name, trimmed, if that is free. -/
theorem create_eq_ok {s t : Store} {now : Timestamp} {name rows owner : Value} {d : Dataset}
    (h : s.create now name rows owner = .ok (d, t)) :
    ∃ base values rs, datasetName name = .ok base ∧ rows.members = .ok values ∧
      s.nameTaken owner base = false ∧ Row.ofValues values = .ok rs ∧
      s.insert now base rs owner = (d, t) := by
  obtain ⟨base, named, h⟩ := bind_eq_ok.1 h
  obtain ⟨values, members, h⟩ := bind_eq_ok.1 h
  cases taken : s.nameTaken owner base with
  | true =>
    simp only [taken, if_true] at h
    cases h
  | false =>
    simp only [taken, Bool.false_eq_true, if_false] at h
    obtain ⟨rs, described, h⟩ := bind_eq_ok.1 h
    exact ⟨base, values, rs, named, members, taken, described, Except.ok.inj h⟩

/-- Under a name of its own a new dataset is always stored, if it has a name and rows. -/
theorem addUnique_eq_ok {s t : Store} {now : Timestamp} {name rows owner : Value} {d : Dataset}
    (h : s.addUnique now name rows owner = .ok (d, t)) :
    ∃ base values rs, datasetName name = .ok base ∧ rows.members = .ok values ∧
      Row.ofValues values = .ok rs ∧
      s.insert now (s.freeName owner base) rs owner = (d, t) := by
  obtain ⟨base, named, h⟩ := bind_eq_ok.1 h
  obtain ⟨values, members, h⟩ := bind_eq_ok.1 h
  obtain ⟨rs, described, h⟩ := bind_eq_ok.1 h
  exact ⟨base, values, rs, named, members, described, Except.ok.inj h⟩

theorem delete_eq_ok {s t : Store} {id viewer : Value} (h : s.delete id viewer = .ok t) :
    ∃ d, s.get id viewer = .ok d ∧ t = { s with datasets := s.datasets.filter (·.id != d.id) } := by
  obtain ⟨d, got, h⟩ := bind_eq_ok.1 h
  exact ⟨d, got, (Except.ok.inj h).symm⟩

/-! ### What operations keep -/

/-- Identifiers increase in the order of storing, and the next one is higher than all. -/
structure Keyed (s : Store) : Prop where
  increasing : (s.datasets.map Dataset.id).Pairwise (· < ·)
  below : ∀ d ∈ s.datasets, d.id < s.nextId

theorem keyed_empty : Keyed empty := ⟨.nil, by simp [empty]⟩

theorem Keyed.insert {s t : Store} (keyed : s.Keyed) {now : Timestamp} {name : String}
    {rows : List Row} {owner : Value} {d : Dataset} (h : s.insert now name rows owner = (d, t)) :
    t.Keyed := by
  obtain ⟨rfl, rfl⟩ := Prod.mk.inj h
  constructor
  · rw [List.map_append, List.pairwise_append]
    refine ⟨keyed.increasing, List.pairwise_singleton _ _, ?_⟩
    intro i hi j hj
    obtain ⟨e, he, rfl⟩ := List.mem_map.1 hi
    obtain rfl : j = s.nextId := List.mem_singleton.1 hj
    exact keyed.below e he
  · intro e he
    rcases List.mem_append.1 he with he | he
    · exact Nat.lt_succ_of_lt (keyed.below e he)
    · obtain rfl := List.mem_singleton.1 he
      exact Nat.lt_succ_self _

theorem Keyed.create {s t : Store} (keyed : s.Keyed) {now : Timestamp} {name rows owner : Value}
    {d : Dataset} (h : s.create now name rows owner = .ok (d, t)) : t.Keyed := by
  obtain ⟨base, values, rs, -, -, -, -, inserted⟩ := create_eq_ok h
  exact keyed.insert inserted

theorem Keyed.addUnique {s t : Store} (keyed : s.Keyed) {now : Timestamp} {name rows owner : Value}
    {d : Dataset} (h : s.addUnique now name rows owner = .ok (d, t)) : t.Keyed := by
  obtain ⟨base, values, rs, -, -, -, inserted⟩ := addUnique_eq_ok h
  exact keyed.insert inserted

theorem Keyed.delete {s t : Store} (keyed : s.Keyed) {id viewer : Value}
    (h : s.delete id viewer = .ok t) : t.Keyed := by
  obtain ⟨d, -, rfl⟩ := delete_eq_ok h
  constructor
  · exact keyed.increasing.sublist (List.filter_sublist.map Dataset.id)
  · intro e he
    exact keyed.below e (List.mem_filter.1 he).1

theorem Keyed.addEntries {s : Store} (keyed : s.Keyed) (now : Timestamp) (entries : List Value) :
    (s.addEntries now entries).1.Keyed := by
  induction entries generalizing s with
  | nil => exact keyed
  | cons entry rest ih =>
    unfold Store.addEntries
    cases added : s.addEntry now entry with
    | error fault => exact keyed
    | ok result =>
      obtain ⟨name, -, added⟩ := bind_eq_ok.1 added
      obtain ⟨rows, -, added⟩ := bind_eq_ok.1 added
      exact ih (keyed.addUnique added)

theorem Keyed.load {s : Store} (keyed : s.Keyed) (now : Timestamp) (text : String) :
    (s.load now text).1.Keyed := by
  unfold Store.load
  cases seedEntries text with
  | error fault => exact keyed
  | ok entries => exact keyed.addEntries now entries

end Store

namespace Session

theorem keyed_withStore {session : Session} (keyed : session.store.Keyed)
    {result : Except Fault (Dataset × Store)} (h : ∀ d t, result = .ok (d, t) → t.Keyed) :
    (session.withStore result).1.store.Keyed := by
  cases result with
  | error fault => exact keyed
  | ok stored => exact h stored.1 stored.2 rfl

/-- Every command keeps a store keyed. -/
theorem keyed_perform {session : Session} (keyed : session.store.Keyed) (command : Command) :
    (session.perform command).1.store.Keyed := by
  cases command with
  | create name rows owner => exact keyed_withStore keyed fun d t h => keyed.create h
  | addUnique name rows owner => exact keyed_withStore keyed fun d t h => keyed.addUnique h
  | delete id viewer =>
    rw [perform]
    split
    · rename_i store deleted
      exact keyed.delete deleted
    · exact keyed
  | load text => exact keyed.load session.clock text
  | get id viewer => exact keyed
  | list viewer => exact keyed
  | visible id viewer other => exact keyed
  | evaluate id viewer query => exact keyed
  | setClock now => exact keyed

/-- Whatever commands are carried out, the store stays keyed. -/
theorem keyed_run {session : Session} (keyed : session.store.Keyed) (commands : List Command) :
    (session.run commands).1.store.Keyed := by
  induction commands generalizing session with
  | nil => exact keyed
  | cons command rest ih => exact ih (keyed_perform keyed command)

end Session

end Tabulate
