import Mathlib.Logic.Relation
import Tabulate.Proofs.Store.Ids
import Tabulate.Proofs.Store.Names

/-!
# Steps of a store

Whatever operation changes a store, it changes it in one of two ways: it stores one dataset after
another, each under a name that its owner does not use, or it deletes one. `Session.perform_cases`
says so for commands, and `Session.invariant_run` draws the conclusion: what both kinds of steps
keep holds after all commands.
-/

namespace Tabulate

namespace Store

/-- The store `t` is `s` with the dataset `d` stored in it, under a trimmed name that its owner does
not use in `s`. -/
structure Gains (s : Store) (d : Dataset) (t : Store) : Prop where
  inserted : s.insert d.createdAt d.name d.rows d.owner = (d, t)
  isName : IsName d.name
  free : s.nameTaken d.owner d.name = false

/-- The store without the dataset of an identifier. -/
def erase (s : Store) (i : Nat) : Store := { s with datasets := s.datasets.filter (·.id != i) }

variable {s t : Store} {d : Dataset} {now : Timestamp} {name rows owner entry : Value}

theorem gains_insert {base : String} {rs : List Row} (isName : IsName base)
    (free : s.nameTaken owner base = false) (h : s.insert now base rs owner = (d, t)) :
    s.Gains d t := by
  obtain ⟨rfl, rfl⟩ := Prod.mk.inj h
  exact ⟨rfl, isName, free⟩

theorem gains_create (h : s.create now name rows owner = .ok (d, t)) : s.Gains d t := by
  obtain ⟨base, values, rs, named, -, free, -, inserted⟩ := create_eq_ok h
  exact gains_insert (isName_of_datasetName named) free inserted

theorem gains_addUnique (h : s.addUnique now name rows owner = .ok (d, t)) : s.Gains d t := by
  obtain ⟨base, values, rs, named, -, -, inserted⟩ := addUnique_eq_ok h
  obtain ⟨k, -, chosen, free, -⟩ := s.exists_freeName owner base
  rw [chosen] at inserted
  exact gains_insert (isName_numbered (isName_of_datasetName named) k) free inserted

theorem gains_addEntry (h : s.addEntry now entry = .ok (d, t)) : s.Gains d t := by
  obtain ⟨name, -, h⟩ := bind_eq_ok.1 h
  obtain ⟨rows, -, h⟩ := bind_eq_ok.1 h
  exact gains_addUnique h

theorem Gains.datasets_eq (h : s.Gains d t) : t.datasets = s.datasets ++ [d] := by
  have kept := congrArg (fun result => result.2.datasets) h.inserted
  have stored := congrArg Prod.fst h.inserted
  simp only [insert] at kept stored
  rw [← kept, stored]

theorem Gains.id_eq (h : s.Gains d t) : d.id = s.nextId :=
  congrArg (fun result => result.1.id) h.inserted.symm

theorem Gains.nextId_eq (h : s.Gains d t) : t.nextId = s.nextId + 1 :=
  congrArg (fun result => result.2.nextId) h.inserted.symm

theorem Gains.columns_eq (h : s.Gains d t) : d.columns = inferColumns d.rows :=
  congrArg (fun result => result.1.columns) h.inserted.symm

/-- The datasets after one was stored are those before and the new one. -/
theorem Gains.mem_iff (h : s.Gains d t) {e : Dataset} :
    e ∈ t.datasets ↔ e ∈ s.datasets ∨ e = d := by
  rw [h.datasets_eq, List.mem_append, List.mem_singleton]

/-- Any number of datasets were stored, one after another. -/
def Grows : Store → Store → Prop := Relation.ReflTransGen fun s t => ∃ d, s.Gains d t

/-- What storing one dataset keeps is kept while datasets are stored. -/
theorem Grows.keep {P : Store → Prop} (gain : ∀ {s d t}, P s → s.Gains d t → P t)
    (grows : s.Grows t) (holds : P s) : P t := by
  induction grows with
  | refl => exact holds
  | tail _ step ih =>
    obtain ⟨d, gains⟩ := step
    exact gain ih gains

theorem Gains.grows (h : s.Gains d t) : s.Grows t := .single ⟨d, h⟩

theorem grows_addEntries (s : Store) (now : Timestamp) (entries : List Value) :
    s.Grows (s.addEntries now entries).1 := by
  induction entries generalizing s with
  | nil => exact .refl
  | cons entry rest ih =>
    unfold addEntries
    cases added : s.addEntry now entry with
    | error fault => exact .refl
    | ok result =>
      obtain ⟨d, t⟩ := result
      exact .head ⟨d, gains_addEntry added⟩ (ih t)

theorem grows_load (s : Store) (now : Timestamp) (text : String) : s.Grows (s.load now text).1 := by
  unfold load
  cases seedEntries text with
  | error fault => exact .refl
  | ok entries => exact s.grows_addEntries now entries

end Store

namespace Session

section Storing

variable {session : Session} {result : Except Fault (Dataset × Store)}
  (gains : ∀ d t, result = .ok (d, t) → session.store.Gains d t)
include gains

theorem grows_withStore : session.store.Grows (session.withStore result).1.store := by
  cases result with
  | error fault => exact .refl
  | ok stored => exact (gains stored.1 stored.2 rfl).grows

/-- What is new in the store was stored just now. -/
theorem stored_of_new {d : Dataset} (new : d ∉ session.store.datasets)
    (hd : d ∈ (session.withStore result).1.store.datasets) : ∃ t, result = .ok (d, t) := by
  cases result with
  | error fault => exact absurd hd new
  | ok stored =>
    obtain ⟨e, t⟩ := stored
    rcases (gains e t rfl).mem_iff.1 hd with old | rfl
    · exact absurd old new
    · exact ⟨t, rfl⟩

/-- The reply shows the dataset that was stored. -/
theorem stored_of_reply {reply : Reply} (h : (session.withStore result).2 = .ok reply) :
    ∃ d, reply = .dataset d ∧ session.store.nextId ≤ d.id := by
  cases result with
  | error fault => cases h
  | ok stored =>
    cases h
    exact ⟨stored.1, rfl, Nat.le_of_eq (gains stored.1 stored.2 rfl).id_eq.symm⟩

end Storing

/-- A deletion fails and changes nothing, or it deletes the dataset that the viewer gets under the
identifier. -/
theorem perform_delete (session : Session) (id viewer : Value) :
    (∃ fault, session.perform (.delete id viewer) = (session, .error fault)) ∨
      ∃ d, session.store.get id viewer = .ok d ∧
        session.perform (.delete id viewer) =
          ({ session with store := session.store.erase d.id }, .ok .done) := by
  cases deleted : session.store.delete id viewer with
  | error fault => exact .inl ⟨fault, by simp only [perform, deleted]⟩
  | ok store =>
    obtain ⟨d, got, rfl⟩ := Store.delete_eq_ok deleted
    refine .inr ⟨d, got, ?_⟩
    simp only [perform, deleted]
    rfl

/-- A command stores datasets or, if it is a deletion that succeeds, deletes the one that was asked
for. -/
theorem perform_cases (session : Session) (command : Command) :
    session.store.Grows (session.perform command).1.store ∨
      ∃ id viewer d, command = .delete id viewer ∧ session.store.get id viewer = .ok d ∧
        session.perform command =
          ({ session with store := session.store.erase d.id }, .ok .done) := by
  cases command with
  | create name rows owner => exact .inl (grows_withStore fun d t h => Store.gains_create h)
  | addUnique name rows owner => exact .inl (grows_withStore fun d t h => Store.gains_addUnique h)
  | load text => exact .inl (session.store.grows_load session.clock text)
  | delete id viewer =>
    rcases session.perform_delete id viewer with ⟨fault, same⟩ | ⟨d, got, done⟩
    · rw [same]
      exact .inl .refl
    · exact .inr ⟨id, viewer, d, rfl, got, done⟩
  -- the others leave the store as it was, which is to store no dataset
  | get id viewer => exact .inl .refl
  | list viewer => exact .inl .refl
  | visible id viewer other => exact .inl .refl
  | evaluate id viewer query => exact .inl .refl
  | setClock now => exact .inl .refl

variable {P : Store → Prop}

/-- What storing and deleting a dataset keep is kept by every command. -/
theorem invariant_perform (gain : ∀ {s d t}, P s → s.Gains d t → P t)
    (erase : ∀ {s} i, P s → P (s.erase i)) {session : Session} (holds : P session.store)
    (command : Command) : P (session.perform command).1.store := by
  rcases session.perform_cases command with grows | ⟨id, viewer, d, -, -, done⟩
  · exact grows.keep gain holds
  · rw [done]
    exact erase d.id holds

/-- What storing and deleting a dataset keep holds after all commands, if it holds before them. -/
theorem invariant_run (gain : ∀ {s d t}, P s → s.Gains d t → P t)
    (erase : ∀ {s} i, P s → P (s.erase i)) {session : Session} (holds : P session.store)
    (commands : List Command) : P (session.run commands).1.store := by
  induction commands generalizing session with
  | nil => exact holds
  | cons command rest ih => exact ih (invariant_perform gain erase holds command)

end Session

end Tabulate
