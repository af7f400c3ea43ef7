import Mathlib.Data.List.Sort
import Tabulate.Proofs.Store.History

/-!
# Lists of datasets

A list shows each dataset that the viewer may see once, newest first: it is sorted by time and,
among datasets of one time, by identifier. What is listed can be got and deleted, and nothing else
can: `Session.list_newest_first`.

Times say nothing about the order in which datasets were stored if the clock is set back in between.
`Session.log` is this order, and `Session.Forward` a run in which the clock is not set back: then a
list is the log in reverse, as far as the datasets are still there and may be seen.
-/

namespace Tabulate

namespace Dataset

/-- `d` has a later time than `e`, or the same time and a higher identifier. -/
def Newer (d e : Dataset) : Prop :=
  e.createdAt.micros < d.createdAt.micros ∨ d.createdAt = e.createdAt ∧ e.id < d.id

variable {d e : Dataset}

theorem createdAt_eq_iff : d.createdAt = e.createdAt ↔ d.createdAt.micros = e.createdAt.micros := by
  cases d.createdAt
  cases e.createdAt
  simp

theorem newer_iff : d.Newer e ↔ e.createdAt.micros < d.createdAt.micros ∨
    d.createdAt.micros = e.createdAt.micros ∧ e.id < d.id := by
  rw [Newer, createdAt_eq_iff]

theorem precedes_iff : d.precedes e ↔ e.createdAt.micros < d.createdAt.micros ∨
    d.createdAt.micros = e.createdAt.micros ∧ e.id ≤ d.id := by
  rw [precedes, Bool.or_eq_true, Bool.and_eq_true, beq_iff_eq, createdAt_eq_iff,
    decide_eq_true_iff, decide_eq_true_iff]

instance : Std.Asymm Newer where
  asymm d e later earlier := by
    rw [newer_iff] at later earlier
    omega

/-- Of two datasets the one stored later is newer, unless the clock was set back. -/
theorem newer_of_le (time : d.createdAt.micros ≤ e.createdAt.micros) (order : d.id < e.id) :
    e.Newer d := by
  rw [newer_iff]
  omega

/-- A listing puts datasets of different identifiers in the order of their age. -/
theorem newer_of_precedes (h : d.precedes e) (other : d.id ≠ e.id) : d.Newer e := by
  rw [precedes_iff] at h
  rw [newer_iff]
  omega

end Dataset

namespace Store

variable {s t : Store} {d : Dataset}

theorem mem_list {viewer : Value} : d ∈ s.list viewer ↔ d ∈ s.datasets ∧ d.visibleTo viewer := by
  rw [list, List.mem_mergeSort, List.mem_filter]

theorem Keyed.nodup_list (keyed : s.Keyed) (viewer : Value) :
    ((s.list viewer).map Dataset.id).Nodup := by
  have visible : ((s.datasets.filter (·.visibleTo viewer)).map Dataset.id).Nodup :=
    (keyed.increasing.sublist (List.filter_sublist.map _)).imp Nat.ne_of_lt
  exact ((List.mergeSort_perm _ _).map _).nodup_iff.2 visible

/-- A list is sorted, the newest dataset first. -/
theorem Keyed.pairwise_list (keyed : s.Keyed) (viewer : Value) :
    (s.list viewer).Pairwise Dataset.Newer := by
  have sorted : (s.list viewer).Pairwise fun d e => d.precedes e := by
    refine List.pairwise_mergeSort ?_ ?_ _
    · intro a b c first second
      rw [Dataset.precedes_iff] at first second ⊢
      omega
    · intro a b
      rw [Bool.or_eq_true, Dataset.precedes_iff, Dataset.precedes_iff]
      omega
  have distinct : (s.list viewer).Pairwise fun d e => d.id ≠ e.id :=
    List.pairwise_map.1 (keyed.nodup_list viewer)
  exact (sorted.and distinct).imp fun both => Dataset.newer_of_precedes both.1 both.2

/-- A viewer gets what is listed for them, under each value equal to its identifier, and nothing
else. -/
theorem Keyed.get_iff_mem_list (keyed : s.Keyed) {id viewer : Value} :
    s.get id viewer = .ok d ↔ d ∈ s.list viewer ∧ (Value.int d.id).eqv id := by
  rw [mem_list]
  constructor
  · intro got
    obtain ⟨hd, same, visible⟩ := mem_of_get got
    exact ⟨⟨hd, visible⟩, same⟩
  · rintro ⟨⟨hd, visible⟩, same⟩
    exact get_of_mem keyed hd same visible

/-- A viewer can delete what they can get. -/
theorem exists_delete_iff {id viewer : Value} :
    (∃ t, s.delete id viewer = .ok t) ↔ ∃ d, s.get id viewer = .ok d := by
  constructor
  · rintro ⟨t, deleted⟩
    obtain ⟨d, got, -⟩ := delete_eq_ok deleted
    exact ⟨d, got⟩
  · rintro ⟨d, got⟩
    exact ⟨s.erase d.id, by rw [delete, got]; rfl⟩

theorem Grows.nextId_le (h : s.Grows t) : s.nextId ≤ t.nextId := by
  refine h.keep (P := fun t => s.nextId ≤ t.nextId) ?_ (Nat.le_refl _)
  intro s' d t' bound gains
  rw [gains.nextId_eq]
  exact Nat.le_succ_of_le bound

/-- What was stored got a new identifier. -/
theorem Grows.old_or_fresh (h : s.Grows t) (hd : d ∈ t.datasets) :
    d ∈ s.datasets ∨ s.nextId ≤ d.id := by
  induction h generalizing d with
  | refl => exact .inl hd
  | tail before step ih =>
    obtain ⟨e, gains⟩ := step
    rcases gains.mem_iff.1 hd with old | rfl
    · exact ih old
    · rw [gains.id_eq]
      exact .inr (Grows.nextId_le before)

end Store

namespace Session

variable {session : Session} {command : Command} {d e : Dataset}

/-! ### The order of creation -/

/-- The datasets that a command stores: those with an identifier that was not given out before
it. -/
def stored (session : Session) (command : Command) : List Dataset :=
  (session.perform command).1.store.datasets.filter (session.store.nextId ≤ ·.id)

/-- The datasets that commands store, in the order in which they are stored. -/
def log (session : Session) : List Command → List Dataset
  | [] => []
  | command :: rest => session.stored command ++ (session.perform command).1.log rest

/-- The clock is never set back. -/
def Forward (session : Session) : List Command → Prop
  | [] => True
  | command :: rest =>
    session.clock.micros ≤ (session.perform command).1.clock.micros ∧
      (session.perform command).1.Forward rest

theorem mem_stored : d ∈ session.stored command ↔
    d ∈ (session.perform command).1.store.datasets ∧ session.store.nextId ≤ d.id := by
  rw [stored, List.mem_filter, decide_eq_true_iff]

theorem nextId_le_perform (session : Session) (command : Command) :
    session.store.nextId ≤ (session.perform command).1.store.nextId := by
  rcases session.perform_cases command with grows | ⟨id, viewer, e, -, -, done⟩
  · exact grows.nextId_le
  · rw [done]
    exact Nat.le_refl _

/-- What is in the store after a command was there before, or the command stored it. -/
theorem mem_or_stored (hd : d ∈ (session.perform command).1.store.datasets) :
    d ∈ session.store.datasets ∨ d ∈ session.stored command := by
  rcases session.perform_cases command with grows | ⟨id, viewer, e, -, -, done⟩
  · exact (grows.old_or_fresh hd).imp_right fun fresh => mem_stored.2 ⟨hd, fresh⟩
  · rw [done] at hd
    exact .inl (List.mem_filter.1 hd).1

/-- What is in the store after commands was there before, or one of them stored it. -/
theorem mem_or_logged {commands : List Command} (hd : d ∈ (session.run commands).1.store.datasets) :
    d ∈ session.store.datasets ∨ d ∈ session.log commands := by
  induction commands generalizing session with
  | nil => exact .inl hd
  | cons command rest ih =>
    rw [log, List.mem_append]
    rcases ih hd with before | later
    · exact (mem_or_stored before).imp_right .inl
    · exact .inr (.inr later)

/-- A dataset is stamped with the time at which it is stored. -/
theorem Creates.createdAt_eq {rows : List Row} (created : session.Creates command rows d) :
    d.createdAt = session.clock := by
  have stamped {s t : Store} {name given owner : Value}
      (added : s.addUnique session.clock name given owner = .ok (d, t)) :
      d.createdAt = session.clock := by
    obtain ⟨base, values, rs, -, -, -, inserted⟩ := Store.addUnique_eq_ok added
    obtain ⟨rfl, -⟩ := Prod.mk.inj inserted
    rfl
  cases created with
  | create _ added =>
    obtain ⟨base, values, rs, -, -, -, -, inserted⟩ := Store.create_eq_ok added
    obtain ⟨rfl, -⟩ := Prod.mk.inj inserted
    rfl
  | addUnique _ added => exact stamped added
  | load _ _ _ _ added =>
    obtain ⟨name, -, added⟩ := bind_eq_ok.1 added
    obtain ⟨given, -, added⟩ := bind_eq_ok.1 added
    exact stamped added

theorem createdAt_of_mem_stored (keyed : session.store.Keyed) (hd : d ∈ session.stored command) :
    d.createdAt = session.clock := by
  obtain ⟨present, fresh⟩ := mem_stored.1 hd
  have new : d ∉ session.store.datasets := by
    intro old
    have below := keyed.below d old
    omega
  obtain ⟨rows, created⟩ := exists_creates new present
  exact created.createdAt_eq

section Running

variable (keyed : session.store.Keyed)
include keyed

/-- One command stores datasets at one time, under increasing identifiers. -/
theorem pairwise_stored (command : Command) :
    (session.stored command).Pairwise fun d e => e.Newer d := by
  have order : (session.stored command).Pairwise fun d e => d.id < e.id :=
    (List.pairwise_map.1 (keyed_perform keyed command).increasing).sublist List.filter_sublist
  refine List.Pairwise.imp_of_mem ?_ order
  intro d e hd he lower
  have time : d.createdAt = e.createdAt :=
    (createdAt_of_mem_stored keyed hd).trans (createdAt_of_mem_stored keyed he).symm
  exact .inr ⟨time.symm, lower⟩

/-- Nothing that is stored later has an earlier time or a lower identifier than the session now. -/
theorem le_of_mem_log {commands : List Command} (forward : session.Forward commands)
    (hd : d ∈ session.log commands) :
    session.clock.micros ≤ d.createdAt.micros ∧ session.store.nextId ≤ d.id := by
  induction commands generalizing session with
  | nil => cases hd
  | cons command rest ih =>
    obtain ⟨here, later⟩ := forward
    rcases List.mem_append.1 hd with now | after
    · rw [createdAt_of_mem_stored keyed now]
      exact ⟨Int.le_refl _, (mem_stored.1 now).2⟩
    · obtain ⟨time, fresh⟩ := ih (keyed_perform keyed command) later after
      exact ⟨here.trans time, (session.nextId_le_perform command).trans fresh⟩

/-- If the clock is not set back, what is stored later is newer. -/
theorem pairwise_log {commands : List Command} (forward : session.Forward commands) :
    (session.log commands).Pairwise fun d e => e.Newer d := by
  induction commands generalizing session with
  | nil => exact .nil
  | cons command rest ih =>
    obtain ⟨here, later⟩ := forward
    have after := keyed_perform keyed command
    rw [log, List.pairwise_append]
    refine ⟨pairwise_stored keyed command, ih after later, ?_⟩
    intro d hd e he
    obtain ⟨time, fresh⟩ := le_of_mem_log after later he
    have stamp := createdAt_of_mem_stored keyed hd
    have below := after.below d (mem_stored.1 hd).1
    refine Dataset.newer_of_le ?_ (Nat.lt_of_lt_of_le below fresh)
    rw [stamp]
    exact here.trans time

end Running

/-! ### Listing -/

/-- Whatever commands were carried out, a list holds each dataset that the viewer may see once and
nothing else, newest first. A viewer gets just what is listed, and can delete just that. If the
clock was never set back, the list is the order in which the datasets were stored, in reverse. -/
theorem list_newest_first (start : Timestamp) (commands : List Command) (viewer : Value) :
    let session : Session := ⟨.empty, start⟩
    let s := (session.run commands).1.store
    let listed := s.list viewer
    (∀ d, listed.count d = if d ∈ s.datasets ∧ d.visibleTo viewer then 1 else 0) ∧
      listed.Pairwise Dataset.Newer ∧
      (∀ id d, s.get id viewer = .ok d ↔ d ∈ listed ∧ (Value.int d.id).eqv id) ∧
      (∀ id, (∃ t, s.delete id viewer = .ok t) ↔ ∃ d ∈ listed, (Value.int d.id).eqv id) ∧
      (session.Forward commands →
        listed = ((session.log commands).filter
          fun d => d ∈ s.datasets ∧ d.visibleTo viewer).reverse) := by
  intro session s listed
  have keyed : s.Keyed := keyed_run Store.keyed_empty commands
  have sorted : listed.Pairwise Dataset.Newer := keyed.pairwise_list viewer
  refine ⟨?_, sorted, fun id d => keyed.get_iff_mem_list, ?_, ?_⟩
  · intro d
    have once : listed.Nodup := (keyed.nodup_list viewer).of_map
    simp only [once.count, listed, Store.mem_list]
  · intro id
    rw [Store.exists_delete_iff]
    exact exists_congr fun d => keyed.get_iff_mem_list
  · intro forward
    have logged :
        (((session.log commands).filter
          fun d => d ∈ s.datasets ∧ d.visibleTo viewer).reverse).Pairwise Dataset.Newer := by
      rw [List.pairwise_reverse]
      exact (pairwise_log Store.keyed_empty forward).sublist List.filter_sublist
    -- both are sorted strictly, so they are equal if they have the same members
    refine sorted.eq_of_mem_iff logged ?_
    intro d
    rw [List.mem_reverse, List.mem_filter, decide_eq_true_iff, Store.mem_list, iff_and_self]
    rintro ⟨hd, -⟩
    exact (mem_or_logged hd).resolve_left (by simp [session, Store.empty])

/-- Two datasets of one time, one of another owner and one that is deleted before the next is
stored. -/
theorem list_newest_first_deleted_in_between :
    let commands : List Command :=
      [ .create (.str "a") (.list []) .null, .addUnique (.str "a") (.list []) .null, .setClock ⟨10⟩,
        .create (.str "b") (.list []) (.str "ann"), .create (.str "b") (.list []) (.str "bob"),
        .delete (.int 1) (.str "ann"), .create (.str "c") (.list []) (.str "ann") ]
    let session : Session := ⟨.empty, ⟨0⟩⟩
    let s := (session.run commands).1.store
    session.Forward commands ∧ (session.log commands).map Dataset.id = [1, 2, 3, 4, 5] ∧
      (s.list (.str "ann")).map Dataset.id = [5, 3, 2] := by
  intro commands session s
  have forward : session.Forward commands := by
    refine ⟨?_, ?_, ?_, ?_, ?_, ?_, ?_, trivial⟩ <;> decide +kernel
  obtain ⟨-, -, -, -, inverse⟩ := list_newest_first ⟨0⟩ commands (.str "ann")
  refine ⟨forward, by decide +kernel, ?_⟩
  rw [inverse forward]
  decide +kernel

end Session

end Tabulate
