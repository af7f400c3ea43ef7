import Tabulate.Proofs.Store.History
import Tabulate.Store.Edit

/-!
# Operations that fail

An operation on a store writes only after its last fault could occur. `Edit.on_create` and its
companions say so of the edits that change a store in place: what they leave behind is the store
that was returned, or the one from before when there was a fault. Seeding alone may stop half-way,
and then it has stored the entries before the one that failed. `Session.failed_perform` puts this
together for commands.
-/

namespace Tabulate

namespace Store.Edit

variable {α β : Type}

/-! ### Making edits -/

theorem on_bind (x : Edit α) (f : α → Edit β) (s : Store) :
    (x >>= f).on s = match x.on s with
      | (.ok a, t) => (f a).on t
      | (.error fault, t) => (.error fault, t) := by
  unfold on ExceptT.run StateT.run Id.run
  simp only [bind, ExceptT.bind, ExceptT.mk, StateT.bind, ExceptT.bindCont]
  cases x s with
  | mk result t => cases result <;> rfl

theorem on_lift (x : Except Fault α) (s : Store) : (liftM x : Edit α).on s = (x, s) := by
  cases x <;> rfl

/-! ### Edits that leave no trace when they fail -/

/-- What an operation gives that returns a new store or a fault, and the store afterwards: the new
one, or the one from before. -/
def commit (s : Store) : Except Fault (α × Store) → Except Fault α × Store
  | .ok (a, t) => (.ok a, t)
  | .error fault => (.error fault, s)

variable {s : Store} {now : Timestamp}

/-- A step that writes nothing may fail: the store is still the one from before. -/
theorem commit_step {x : Except Fault α} {f : α → Edit β} {g : α → Except Fault (β × Store)}
    (h : ∀ a, x = .ok a → (f a).on s = commit s (g a)) :
    ((liftM x : Edit α) >>= f).on s = commit s (x >>= g) := by
  rw [on_bind, on_lift]
  cases x with
  | error fault => rfl
  | ok a => exact h a rfl

/-- Looking at the store writes nothing. -/
theorem on_current_bind (f : Store → Edit α) (s : Store) : (current >>= f).on s = (f s).on s := rfl

theorem on_insert (name : String) (values : List Value) (owner : Value) :
    (insert now name values owner).on s =
      commit s (Row.ofValues values >>= fun rows => .ok (s.insert now name rows owner)) := by
  rw [insert, on_current_bind]
  apply commit_step
  intro rows _
  -- both writes come after the rows were read
  rfl

theorem on_create (name rows owner : Value) :
    (create now name rows owner).on s = commit s (s.create now name rows owner) := by
  apply commit_step
  intro base _
  apply commit_step
  intro values _
  rw [on_current_bind]
  by_cases taken : s.nameTaken owner base
  · rw [if_pos taken, if_pos taken]
    rfl
  · rw [if_neg taken, if_neg taken]
    exact on_insert base values owner

theorem on_addUnique (name rows owner : Value) :
    (addUnique now name rows owner).on s = commit s (s.addUnique now name rows owner) := by
  apply commit_step
  intro base _
  apply commit_step
  intro values _
  rw [on_current_bind]
  exact on_insert (s.freeName owner base) values owner

theorem on_find (id viewer : Value) : (find id viewer).on s = (s.get id viewer, s) := by
  rw [find, on_current_bind, on_lift]

theorem on_delete (id viewer : Value) :
    (delete id viewer).on s = commit s ((s.delete id viewer).map fun t => ((), t)) := by
  rw [delete, on_bind, on_find, Store.delete]
  cases s.get id viewer <;> rfl

theorem on_addEntry (entry : Value) :
    (addEntry now entry).on s = commit s (s.addEntry now entry) := by
  apply commit_step
  intro name _
  apply commit_step
  intro rows _
  exact on_addUnique name rows (entry.field "owner")

/-! ### Seeding -/

/-- Entries are stored one after another, and what was stored before a fault stays. -/
theorem on_addEntries (now : Timestamp) (s : Store) (entries : List Value) :
    (addEntries now entries).on s =
      ((s.addEntries now entries).2, (s.addEntries now entries).1) := by
  induction entries generalizing s with
  | nil => rfl
  | cons entry rest ih =>
    rw [addEntries, on_bind, on_addEntry, Store.addEntries]
    cases s.addEntry now entry with
    | error fault => rfl
    | ok stored =>
      simp only [commit]
      rw [on_bind, ih]
      cases (stored.2.addEntries now rest).2 <;> rfl

theorem on_load (now : Timestamp) (s : Store) (text : String) :
    (load now text).on s = ((s.load now text).2, (s.load now text).1) := by
  rw [load, on_bind, on_lift, Store.load]
  cases seedEntries text with
  | error fault => rfl
  | ok entries => exact on_addEntries now s entries

/-- A session carries out a command as the edit of its store does. -/
theorem on_ofCommand (session : Session) (command : Command) :
    (ofCommand session.clock command).on session.store =
      ((session.perform command).2, (session.perform command).1.store) := by
  cases command with
  | create name rows owner =>
    rw [ofCommand, on_bind, on_create, Session.perform]
    cases session.store.create session.clock name rows owner <;> rfl
  | addUnique name rows owner =>
    rw [ofCommand, on_bind, on_addUnique, Session.perform]
    cases session.store.addUnique session.clock name rows owner <;> rfl
  | get id viewer =>
    rw [ofCommand, on_bind, on_find, Session.perform]
    cases session.store.get id viewer <;> rfl
  | visible id viewer other =>
    rw [ofCommand, on_bind, on_find, Session.perform]
    cases session.store.get id viewer <;> rfl
  | delete id viewer =>
    rw [ofCommand, on_bind, on_delete, Session.perform]
    cases session.store.delete id viewer <;> rfl
  | load text =>
    rw [ofCommand, on_bind, on_load, Session.perform]
    cases session.store.load session.clock text with
    | mk t result => cases result <;> rfl
  | evaluate id viewer query =>
    rw [ofCommand, on_bind, on_find]
    simp only [Session.perform]
    cases session.store.get id viewer with
    | error fault => rfl
    | ok d =>
      change (liftM (evaluate (some d.rows) query .null) >>= fun rows =>
        pure (Reply.rows rows) : Edit Reply).on _ =
        ((evaluate (some d.rows) query .null >>= fun rows => .ok (Reply.rows rows)), session.store)
      rw [on_bind, on_lift]
      cases evaluate (some d.rows) query .null <;> rfl
  | list viewer => rfl
  | setClock now => rfl

end Store.Edit

/-! ### Entries as commands -/

/-- The command that stores the dataset of an entry of a seed text. -/
def Command.ofEntry (entry : Value) : Except Fault Command := do
  let name ← entry.required "name"
  return .addUnique name (← Store.entryRows entry) (entry.field "owner")

namespace Store

variable {s t : Store} {now : Timestamp} {fault : Fault}

/-- When entries fail, one of them does, and those before it were stored. -/
theorem exists_failed_entry {entries : List Value}
    (failed : (s.addEntries now entries).2 = .error fault) :
    ∃ before entry after earlier, entries = before ++ entry :: after ∧
      s.addEntries now before = ((s.addEntries now entries).1, .ok earlier) ∧
      (s.addEntries now entries).1.addEntry now entry = .error fault := by
  induction entries generalizing s with
  | nil => cases failed
  | cons entry rest ih =>
    cases added : s.addEntry now entry with
    | error first =>
      simp only [addEntries, added] at failed ⊢
      cases failed
      exact ⟨[], entry, rest, [], rfl, rfl, added⟩
    | ok stored =>
      rw [addEntries_cons added] at failed ⊢
      obtain ⟨before, e, after, earlier, rfl, started, refused⟩ := ih (map_eq_error.1 failed)
      refine ⟨entry :: before, e, after, stored.1 :: earlier, rfl, ?_, refused⟩
      rw [addEntries_cons added, started]
      rfl

end Store

namespace Session

variable {session : Session} {command : Command} {entry : Value} {fault : Fault}

/-- Storing the dataset of an entry is carrying out its command. -/
theorem withStore_addEntry (session : Session) (entry : Value) :
    session.withStore (session.store.addEntry session.clock entry) =
      match Command.ofEntry entry with
      | .ok command => session.perform command
      | .error fault => (session, .error fault) := by
  unfold Store.addEntry Command.ofEntry
  cases entry.required "name" with
  | error fault => rfl
  | ok name => cases Store.entryRows entry <;> rfl

/-- Entries that are stored without a fault are as many commands, each answered with the dataset
that it stored. -/
theorem run_ofEntries {entries : List Value} {ds : List Dataset} {t : Store}
    (stored : session.store.addEntries session.clock entries = (t, .ok ds)) :
    ∃ commands, entries.mapM Command.ofEntry = .ok commands ∧
      session.run commands = ({ session with store := t }, ds.map fun d => .ok (.dataset d)) := by
  induction entries generalizing session ds with
  | nil =>
    cases stored
    exact ⟨[], rfl, rfl⟩
  | cons entry rest ih =>
    have performed := session.withStore_addEntry entry
    cases added : session.store.addEntry session.clock entry with
    | error fault =>
      simp only [Store.addEntries, added] at stored
      cases stored
    | ok first =>
      obtain ⟨d, s⟩ := first
      cases others : s.addEntries session.clock rest with
      | mk last result =>
        rw [Store.addEntries_cons added, others] at stored
        cases result with
        | error fault => cases stored
        | ok later =>
          cases stored
          obtain ⟨commands, made, ran⟩ := @ih { session with store := s } later others
          cases here : Command.ofEntry entry with
          | error fault =>
            rw [added, here] at performed
            cases congrArg Prod.snd performed
          | ok command =>
            rw [added, here] at performed
            refine ⟨command :: commands, ?_, ?_⟩
            · rw [List.mapM_cons, here, made]
              rfl
            · simp only [run, ← performed, withStore, ran]
              rfl

/-! ### Failing -/

/-- How a seed text fails. It is not read, and the session stays what it is, or an entry fails after
the commands of the entries before it were carried out. -/
inductive LoadStops (session : Session) (text : String) (fault : Fault) : Session → Prop
  | unread (unread : Store.seedEntries text = .error fault) : LoadStops session text fault session
  | entry {before after : List Value} {entry : Value} {commands : List Command}
      {earlier : List Dataset} {later : Session}
      (entries : Store.seedEntries text = .ok (before ++ entry :: after))
      (made : before.mapM Command.ofEntry = .ok commands)
      (ran : session.run commands = (later, earlier.map fun d => .ok (.dataset d)))
      (failed : (Command.ofEntry entry >>= fun command => (later.perform command).2) =
        .error fault) :
      LoadStops session text fault later

/-- Seeding that fails stops as `LoadStops` says. -/
theorem loadStops {text : String} (failed : (session.perform (.load text)).2 = .error fault) :
    session.LoadStops text fault (session.perform (.load text)).1 := by
  cases read : Store.seedEntries text with
  | error first =>
    simp only [perform, Store.load, read] at failed ⊢
    cases failed
    exact .unread read
  | ok entries =>
    simp only [perform, Store.load, read] at failed ⊢
    obtain ⟨before, entry, after, earlier, rfl, started, refused⟩ :=
      Store.exists_failed_entry (map_eq_error.1 failed)
    obtain ⟨commands, made, ran⟩ := run_ofEntries started
    refine .entry read made ran ?_
    have performed := withStore_addEntry
      { session with
        store := (session.store.addEntries session.clock (before ++ entry :: after)).1 } entry
    rw [refused] at performed
    -- whether the entry gives no command or its command fails, the fault is the one of storing its
    -- dataset
    cases here : Command.ofEntry entry
    all_goals
      rw [here] at performed
      exact congrArg Prod.snd performed.symm

/-- A command other than seeding leaves no trace when it fails. -/
theorem perform_of_failed (other : ∀ text, command ≠ .load text)
    (failed : (session.perform command).2 = .error fault) :
    (session.perform command).1 = session := by
  have stored {result : Except Fault (Dataset × Store)}
      (failed : (session.withStore result).2 = .error fault) :
      (session.withStore result).1 = session := by
    cases result with
    | error first => rfl
    | ok stored => cases failed
  cases command with
  | create name rows owner => exact stored failed
  | addUnique name rows owner => exact stored failed
  | load text => exact absurd rfl (other text)
  | delete id viewer =>
    rcases session.perform_delete id viewer with ⟨first, same⟩ | ⟨d, -, done⟩
    · rw [same]
    · rw [done] at failed
      cases failed
  | setClock now => cases failed
  | get id viewer => rfl
  | list viewer => rfl
  | visible id viewer other => rfl
  | evaluate id viewer query => rfl

/-- A command that fails leaves no trace, and all that comes after it is answered as if it had not
been given. Seeding alone may leave something: nothing if the text is no JSON, and otherwise what
the entries before the first one that fails stored. In either case the edit that changes the store
in place ends with this very store. -/
theorem failed_perform (failed : (session.perform command).2 = .error fault) :
    (Store.Edit.ofCommand session.clock command).on session.store =
        (.error fault, (session.perform command).1.store) ∧
      ((∀ text, command ≠ .load text) →
        (session.perform command).1 = session ∧
          ∀ rest, session.run (command :: rest) =
            ((session.run rest).1, .error fault :: (session.run rest).2)) ∧
      ∀ text, command = .load text →
        (∀ e, Json.read (String.ofList (unifyLineEnds text.toList)) = .error e →
          fault = .json e ∧ (session.perform command).1 = session) ∧
        session.LoadStops text fault (session.perform command).1 := by
  refine ⟨?_, ?_, ?_⟩
  · rw [Store.Edit.on_ofCommand, failed]
  · intro other
    have same := perform_of_failed other failed
    refine ⟨same, ?_⟩
    intro rest
    simp only [run, same, failed]
  · rintro text rfl
    refine ⟨?_, loadStops failed⟩
    intro e invalid
    have unread : Store.seedEntries text = .error (.json e) := by
      rw [Store.seedEntries, invalid]
      rfl
    simp only [perform, Store.load, unread] at failed ⊢
    cases failed
    exact ⟨rfl, trivial⟩

/-- A seed text whose second entry has no name leaves the dataset of the first one. A second dataset
of its name is refused then, and changes nothing. -/
theorem failed_perform_second_entry :
    let text := "[\x7b\"name\": \"a\"\x7d, \x7b\"rows\": []\x7d]"
    let stopped := (Session.perform ⟨.empty, ⟨0⟩⟩ (.load text)).1
    let taken : Command := .create (.str " a ") (.list []) .null
    stopped.store.size = 1 ∧ LoadStops ⟨.empty, ⟨0⟩⟩ text (.missingKey "name") stopped ∧
      (stopped.perform taken).1 = stopped := by
  intro text stopped taken
  have loaded : Store.load .empty ⟨0⟩ text =
      (⟨[⟨1, "a", [], [], .null, ⟨0⟩⟩], 2⟩, .error (.missingKey "name")) := by
    decide +kernel
  have stopped_eq : stopped = ⟨⟨[⟨1, "a", [], [], .null, ⟨0⟩⟩], 2⟩, ⟨0⟩⟩ := by
    simp only [stopped, perform, loaded]
  have half : (Session.perform ⟨.empty, ⟨0⟩⟩ (.load text)).2 = .error (.missingKey "name") := by
    simp only [perform, loaded]
    rfl
  have refused : (stopped.perform taken).2 = .error (.conflict "a") := by
    rw [stopped_eq]
    rfl
  refine ⟨?_, ?_, ?_⟩
  · rw [stopped_eq]
    rfl
  · exact ((failed_perform half).2.2 text rfl).2
  · exact ((failed_perform refused).2.1 (by simp [taken])).1

end Session

end Tabulate
