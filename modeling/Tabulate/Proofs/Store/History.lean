import Tabulate.Proofs.Number.Decimal
import Tabulate.Proofs.Store.Hidden
import Tabulate.Proofs.Store.Steps

/-!
# The history of a dataset

A dataset is stored once, stays what it is, and is deleted at most once. `Session.Creates` says
which dataset a command stores and from which rows, `Session.Deletes` which identifier a command
deletes. `Session.created_lasts` tells the whole history: a dataset answers for its identifier until
it is deleted, and nobody answers for it afterwards.

Both halves rest on what is `Settled` about an identifier that was given out: no later command gives
it out again.
-/

namespace Tabulate

/-- Two integers that are equal to the same value are the same. -/
theorem Value.eqv_int_unique {i j : Int} {v : Value} (hi : (int i).eqv v) (hj : (int j).eqv v) :
    i = j := by
  cases v with
  | bool b => exact (beq_iff_eq.1 hi).trans (beq_iff_eq.1 hj).symm
  | int k => exact (beq_iff_eq.1 hi).trans (beq_iff_eq.1 hj).symm
  | float x =>
    cases x with
    | finite negative units representable =>
      have hi : withSign negative units = i * unitsPerOne := beq_iff_eq.1 hi
      have hj : withSign negative units = j * unitsPerOne := beq_iff_eq.1 hj
      have one : (unitsPerOne : Int) ≠ 0 := Int.natCast_ne_zero.2 unitsPerOne_pos.ne'
      exact Int.eq_of_mul_eq_mul_right one (hi.symm.trans hj)
    | _ => cases hi
  | _ => cases hi

namespace Store

variable {s t : Store} {d : Dataset} {id viewer : Value}

/-! ### Getting a dataset -/

theorem mem_of_get (h : s.get id viewer = .ok d) :
    d ∈ s.datasets ∧ (Value.int d.id).eqv id ∧ d.visibleTo viewer := by
  unfold get at h
  split at h
  · cases h
  · cases h
  · cases found : s.datasets.find? fun d => (Value.int d.id).eqv id with
    | none =>
      rw [found] at h
      cases h
    | some e =>
      simp only [found] at h
      by_cases visible : e.visibleTo viewer
      · rw [if_pos visible] at h
        cases h
        exact ⟨List.mem_of_find?_eq_some found, by simpa using List.find?_some found, visible⟩
      · rw [if_neg visible] at h
        cases h

theorem find?_of_mem (keyed : s.Keyed) (hd : d ∈ s.datasets) (same : (Value.int d.id).eqv id) :
    (s.datasets.find? fun e => (Value.int e.id).eqv id) = some d := by
  cases found : s.datasets.find? fun e => (Value.int e.id).eqv id with
  | none => exact absurd same (List.find?_eq_none.1 found d hd)
  | some e =>
    -- what is found has an identifier equal to the same value, and no two datasets share one
    have ids : (e.id : Int) = d.id :=
      Value.eqv_int_unique (by simpa using List.find?_some found) same
    rw [keyed.eq_of_id_eq (List.mem_of_find?_eq_some found) hd (Int.ofNat.inj ids)]

/-- Every viewer who may see a stored dataset gets it under its identifier. -/
theorem get_of_mem (keyed : s.Keyed) (hd : d ∈ s.datasets) (same : (Value.int d.id).eqv id)
    (visible : d.visibleTo viewer) : s.get id viewer = .ok d := by
  have found := find?_of_mem keyed hd same
  cases id with
  | list items => cases same
  | record fields => cases same
  | _ => simp only [get, found, visible, if_true]

/-- Nobody gets a dataset under an identifier that no dataset has. -/
theorem get_of_not_mem {i : Nat} (gone : ∀ d ∈ s.datasets, d.id ≠ i) (same : (Value.int i).eqv id)
    (viewer : Value) : s.get id viewer = .error (.notFound id) := by
  have missing : (s.datasets.find? fun e => (Value.int e.id).eqv id) = none := by
    rw [List.find?_eq_none]
    intro d hd equal
    exact gone d hd (Int.ofNat.inj (Value.eqv_int_unique equal same))
  cases id with
  | list items => cases same
  | record fields => cases same
  | _ => simp only [get, missing]

/-- A dataset that is not got under an integer is not found. -/
theorem get_eq_error {i : Int} {fault : Fault} (h : s.get (.int i) viewer = .error fault) :
    fault = .notFound (.int i) := by
  simp only [get] at h
  split at h
  · split at h
    · cases h
    · exact (Except.error.inj h).symm
  · exact (Except.error.inj h).symm

/-! ### Identifiers that were given out -/

theorem Grows.subset (h : s.Grows t) : s.datasets ⊆ t.datasets := by
  refine h.keep (P := fun t => s.datasets ⊆ t.datasets) ?_ (List.Subset.refl _)
  intro s' d t' kept gains e he
  exact gains.mem_iff.2 (.inl (kept he))

/-- Entries are stored one after another. -/
theorem addEntries_cons {now : Timestamp} {entry : Value}
    (added : s.addEntry now entry = .ok (d, t)) (rest : List Value) :
    s.addEntries now (entry :: rest) =
      ((t.addEntries now rest).1, (t.addEntries now rest).2.map (d :: ·)) := by
  simp only [addEntries, added]

theorem addEntries_append {now : Timestamp} {before : List Value} {earlier : List Dataset}
    (started : s.addEntries now before = (t, .ok earlier)) (after : List Value) :
    s.addEntries now (before ++ after) =
      ((t.addEntries now after).1, (t.addEntries now after).2.map (earlier ++ ·)) := by
  induction before generalizing s earlier with
  | nil =>
    cases started
    rw [List.nil_append]
    cases later : t.addEntries now after with
    | mk last result => cases result <;> rfl
  | cons entry rest ih =>
    cases added : s.addEntry now entry with
    | error fault =>
      simp only [addEntries, added] at started
      cases started
    | ok stored =>
      obtain ⟨first, s'⟩ := stored
      cases begun : s'.addEntries now rest with
      | mk s'' result =>
        rw [addEntries_cons added, begun] at started
        cases result with
        | error fault => cases started
        | ok others =>
          obtain ⟨rfl, same⟩ := Prod.mk.inj started
          cases same
          rw [List.cons_append, addEntries_cons added, ih begun]
          cases (s''.addEntries now after).2 <;> rfl

/-- Each dataset that entries add was added for one of them, after the earlier ones. -/
theorem exists_entry {now : Timestamp} {entries : List Value}
    (hd : d ∈ (s.addEntries now entries).1.datasets) (new : d ∉ s.datasets) :
    ∃ before entry after s' earlier t, entries = before ++ entry :: after ∧
      s.addEntries now before = (s', .ok earlier) ∧ s'.addEntry now entry = .ok (d, t) := by
  induction entries generalizing s with
  | nil => exact absurd hd new
  | cons entry rest ih =>
    cases added : s.addEntry now entry with
    | error fault =>
      simp only [addEntries, added] at hd
      exact absurd hd new
    | ok stored =>
      obtain ⟨first, s₁⟩ := stored
      rw [addEntries_cons added] at hd
      -- the first entry added `d`, or one of those behind it did, to the store that the first one
      -- leaves
      by_cases here : d = first
      · subst here
        exact ⟨[], entry, rest, s, [], s₁, rfl, rfl, added⟩
      · have later : d ∉ s₁.datasets := by
          rw [(gains_addEntry added).mem_iff]
          rintro (old | same)
          · exact new old
          · exact here same
        obtain ⟨before, e, after, s', earlier, t, rfl, started, stored⟩ := ih hd later
        refine ⟨entry :: before, e, after, s', first :: earlier, t, rfl, ?_, stored⟩
        rw [addEntries_cons added, started]
        rfl

/-- The datasets that are returned for entries get new identifiers. -/
theorem fresh_of_addEntries {now : Timestamp} {entries : List Value} {ds : List Dataset}
    (h : (s.addEntries now entries).2 = .ok ds) (hd : d ∈ ds) : s.nextId ≤ d.id := by
  induction entries generalizing s ds with
  | nil =>
    cases h
    cases hd
  | cons entry rest ih =>
    cases added : s.addEntry now entry with
    | error fault =>
      simp only [addEntries, added] at h
      cases h
    | ok stored =>
      obtain ⟨first, s₁⟩ := stored
      have gains := gains_addEntry added
      rw [addEntries_cons added] at h
      cases others : (s₁.addEntries now rest).2 with
      | error fault =>
        rw [others] at h
        cases h
      | ok later =>
        rw [others] at h
        cases h
        rcases List.mem_cons.1 hd with rfl | hd
        · exact gains.id_eq.ge
        · have fresh := ih others hd
          rw [gains.nextId_eq] at fresh
          omega

/-- The identifier `i` was given out, and `p` holds of whatever dataset has it. -/
structure Settled (i : Nat) (p : Dataset → Prop) (s : Store) : Prop where
  below : i < s.nextId
  holds : ∀ d ∈ s.datasets, d.id = i → p d

theorem Settled.gain {i : Nat} {p : Dataset → Prop} (h : Settled i p s) (gains : s.Gains d t) :
    Settled i p t where
  below := by
    rw [gains.nextId_eq]
    exact Nat.lt_succ_of_lt h.below
  holds := by
    intro e he same
    rcases gains.mem_iff.1 he with he | rfl
    · exact h.holds e he same
    · have fresh := gains.id_eq
      have below := h.below
      omega

theorem Settled.erase {i : Nat} {p : Dataset → Prop} (j : Nat) (h : Settled i p s) :
    Settled i p (s.erase j) where
  below := h.below
  holds d hd same := h.holds d (List.mem_filter.1 hd).1 same

end Store

/-- The rows that a value gives to a dataset. -/
def Describes (value : Value) (rows : List Row) : Prop :=
  ∃ values, value.members = .ok values ∧ Row.ofValues values = .ok rows

/-- The datasets that a reply shows. -/
def Reply.shown : Reply → List Dataset
  | .dataset d => [d]
  | .datasets ds => ds
  | _ => []

namespace Session

variable {session : Session} {command : Command} {rows : List Row} {d : Dataset} {i : Nat}

/-! ### Commands that store -/

/-- The command stores the dataset `d` from `rows`, alone or as one of the entries of a seed
text. -/
inductive Creates (session : Session) : Command → List Row → Dataset → Prop
  | create {name given owner : Value} {rows : List Row} {d : Dataset} {t : Store}
      (describes : Describes given rows)
      (stored : session.store.create session.clock name given owner = .ok (d, t)) :
      Creates session (.create name given owner) rows d
  | addUnique {name given owner : Value} {rows : List Row} {d : Dataset} {t : Store}
      (describes : Describes given rows)
      (stored : session.store.addUnique session.clock name given owner = .ok (d, t)) :
      Creates session (.addUnique name given owner) rows d
  | load {text : String} {before after : List Value} {entry given : Value}
      {earlier : List Dataset} {rows : List Row} {d : Dataset} {s t : Store}
      (entries : Store.seedEntries text = .ok (before ++ entry :: after))
      (started : session.store.addEntries session.clock before = (s, .ok earlier))
      (given_eq : Store.entryRows entry = .ok given) (describes : Describes given rows)
      (stored : s.addEntry session.clock entry = .ok (d, t)) : Creates session (.load text) rows d

/-- A dataset has the rows that it was stored from. -/
theorem Creates.rows_eq (created : session.Creates command rows d) : d.rows = rows := by
  have unique {given : Value} {values : List Value} {rs : List Row}
      (describes : Describes given rows) (members : given.members = .ok values)
      (described : Row.ofValues values = .ok rs) : rs = rows := by
    obtain ⟨values', members', described'⟩ := describes
    rw [members] at members'
    cases members'
    rw [described] at described'
    exact Except.ok.inj described'
  cases created with
  | create describes stored =>
    obtain ⟨base, values, rs, -, members, -, described, inserted⟩ := Store.create_eq_ok stored
    obtain ⟨rfl, -⟩ := Prod.mk.inj inserted
    exact unique describes members described
  | addUnique describes stored =>
    obtain ⟨base, values, rs, -, members, described, inserted⟩ := Store.addUnique_eq_ok stored
    obtain ⟨rfl, -⟩ := Prod.mk.inj inserted
    exact unique describes members described
  | load entries started given_eq describes stored =>
    obtain ⟨name, -, stored⟩ := bind_eq_ok.1 stored
    obtain ⟨given', given_eq', stored⟩ := bind_eq_ok.1 stored
    rw [given_eq] at given_eq'
    cases given_eq'
    obtain ⟨base, values, rs, -, members, described, inserted⟩ := Store.addUnique_eq_ok stored
    obtain ⟨rfl, -⟩ := Prod.mk.inj inserted
    exact unique describes members described

/-- A dataset that a command stores is in the store afterwards. -/
theorem Creates.mem (created : session.Creates command rows d) :
    d ∈ (session.perform command).1.store.datasets := by
  cases created with
  | create describes stored =>
    simp only [perform, stored, withStore]
    exact (Store.gains_create stored).mem_iff.2 (.inr rfl)
  | addUnique describes stored =>
    simp only [perform, stored, withStore]
    exact (Store.gains_addUnique stored).mem_iff.2 (.inr rfl)
  | @load text before after entry given earlier rows d s t entries started given_eq describes
      stored =>
    simp only [perform, Store.load, entries, Store.addEntries_append started,
      Store.addEntries_cons stored]
    exact (t.grows_addEntries session.clock after).subset
      ((Store.gains_addEntry stored).mem_iff.2 (.inr rfl))

/-- Every dataset that is in the store after a command and was not there before was stored by the
command. -/
theorem exists_creates (new : d ∉ session.store.datasets)
    (hd : d ∈ (session.perform command).1.store.datasets) :
    ∃ rows, session.Creates command rows d := by
  cases command with
  | create name given owner =>
    obtain ⟨t, stored⟩ := stored_of_new (fun e t => Store.gains_create) new hd
    obtain ⟨base, values, rs, -, members, -, described, -⟩ := Store.create_eq_ok stored
    exact ⟨rs, .create ⟨values, members, described⟩ stored⟩
  | addUnique name given owner =>
    obtain ⟨t, stored⟩ := stored_of_new (fun e t => Store.gains_addUnique) new hd
    obtain ⟨base, values, rs, -, members, described, -⟩ := Store.addUnique_eq_ok stored
    exact ⟨rs, .addUnique ⟨values, members, described⟩ stored⟩
  | load text =>
    cases read : Store.seedEntries text with
    | error fault =>
      simp only [perform, Store.load, read] at hd
      exact absurd hd new
    | ok entries =>
      simp only [perform, Store.load, read] at hd
      obtain ⟨before, entry, after, s, earlier, t, rfl, started, stored⟩ :=
        Store.exists_entry hd new
      obtain ⟨name, -, added⟩ := bind_eq_ok.1 stored
      obtain ⟨given, given_eq, added⟩ := bind_eq_ok.1 added
      obtain ⟨base, values, rs, -, members, described, -⟩ := Store.addUnique_eq_ok added
      exact ⟨rs, .load read started given_eq ⟨values, members, described⟩ stored⟩
  | delete id viewer =>
    rcases session.perform_delete id viewer with ⟨fault, same⟩ | ⟨e, -, done⟩
    · rw [same] at hd
      exact absurd hd new
    · rw [done] at hd
      exact absurd (List.mem_filter.1 hd).1 new
  | get id viewer => exact absurd hd new
  | list viewer => exact absurd hd new
  | visible id viewer other => exact absurd hd new
  | evaluate id viewer query => exact absurd hd new
  | setClock now => exact absurd hd new

/-! ### Commands that delete -/

/-- The command deletes the dataset with the identifier `i`. -/
def Deletes (session : Session) (command : Command) (i : Nat) : Prop :=
  ∃ id viewer, command = .delete id viewer ∧ (Value.int i).eqv id ∧
    (session.perform command).2 = .ok .done

/-- One of the commands deletes the dataset with the identifier `i`. -/
def DeletedIn (session : Session) (i : Nat) : List Command → Prop
  | [] => False
  | command :: rest => session.Deletes command i ∨ (session.perform command).1.DeletedIn i rest

/-- A dataset stays in the store unless it is deleted. -/
theorem mem_perform (hd : d ∈ session.store.datasets) (kept : ¬ session.Deletes command d.id) :
    d ∈ (session.perform command).1.store.datasets := by
  rcases session.perform_cases command with grows | ⟨id, viewer, e, rfl, got, done⟩
  · exact grows.subset hd
  · have other : d.id ≠ e.id := by
      intro same
      refine kept ⟨id, viewer, rfl, ?_, by rw [done]⟩
      rw [same]
      exact (Store.mem_of_get got).2.1
    rw [done]
    exact List.mem_filter.2 ⟨hd, by simpa using other⟩

/-- After its deletion no dataset has the identifier. -/
theorem gone_perform (deleted : session.Deletes command i) :
    ∀ e ∈ (session.perform command).1.store.datasets, e.id ≠ i := by
  obtain ⟨id, viewer, rfl, same, answered⟩ := deleted
  rcases session.perform_delete id viewer with ⟨fault, failed⟩ | ⟨d, got, done⟩
  · rw [failed] at answered
    cases answered
  · have ids : (d.id : Int) = i := Value.eqv_int_unique (Store.mem_of_get got).2.1 same
    rw [done]
    intro e he
    have other := (List.mem_filter.1 he).2
    rw [← Int.ofNat.inj ids]
    simpa using other

/-! ### Runs -/

theorem run_append (session : Session) (before after : List Command) :
    session.run (before ++ after) =
      (((session.run before).1.run after).1,
        (session.run before).2 ++ ((session.run before).1.run after).2) := by
  induction before generalizing session with
  | nil => rfl
  | cons command rest ih => simp only [List.cons_append, run, ih]

theorem settled_perform {p : Dataset → Prop} (settled : session.store.Settled i p)
    (command : Command) : (session.perform command).1.store.Settled i p :=
  invariant_perform .gain .erase settled command

/-- A dataset that a command shows was in the store before or has a new identifier. -/
theorem mem_shown {reply : Reply} (h : (session.perform command).2 = .ok reply)
    (hd : d ∈ reply.shown) : d ∈ session.store.datasets ∨ session.store.nextId ≤ d.id := by
  have stored (fresh : ∃ e, reply = .dataset e ∧ session.store.nextId ≤ e.id) :
      session.store.nextId ≤ d.id := by
    obtain ⟨e, rfl, fresh⟩ := fresh
    obtain rfl := List.mem_singleton.1 hd
    exact fresh
  cases command with
  | create name rows owner =>
    exact .inr (stored (stored_of_reply (fun e t => Store.gains_create) h))
  | addUnique name rows owner =>
    exact .inr (stored (stored_of_reply (fun e t => Store.gains_addUnique) h))
  | get id viewer =>
    cases got : session.store.get id viewer with
    | error fault =>
      simp only [perform, got] at h
      cases h
    | ok e =>
      simp only [perform, got] at h
      cases h
      obtain rfl := List.mem_singleton.1 hd
      exact .inl (Store.mem_of_get got).1
  | list viewer =>
    cases h
    rw [Reply.shown, Store.list, List.mem_mergeSort] at hd
    exact .inl (List.mem_filter.1 hd).1
  | load text =>
    cases read : Store.seedEntries text with
    | error fault =>
      simp only [perform, Store.load, read] at h
      cases h
    | ok entries =>
      simp only [perform, Store.load, read] at h
      cases added : (session.store.addEntries session.clock entries).2 with
      | error fault =>
        rw [added] at h
        cases h
      | ok ds =>
        rw [added] at h
        cases h
        exact .inr (Store.fresh_of_addEntries added hd)
  | visible id viewer other =>
    cases got : session.store.get id viewer with
    | error fault =>
      simp only [perform, got] at h
      cases h
    | ok e =>
      simp only [perform, got] at h
      cases h
      cases hd
  | evaluate id viewer query =>
    obtain ⟨e, -, h⟩ := bind_eq_ok.1 h
    obtain ⟨rows, -, h⟩ := bind_eq_ok.1 h
    cases h
    cases hd
  | delete id viewer =>
    rcases session.perform_delete id viewer with ⟨fault, same⟩ | ⟨e, -, done⟩
    · rw [same] at h
      cases h
    · rw [done] at h
      cases h
      cases hd
  | setClock now =>
    cases h
    cases hd

/-- What a command shows of an identifier that was given out is what was settled about it. -/
theorem shown_perform {p : Dataset → Prop} (settled : session.store.Settled i p) {reply : Reply}
    (h : (session.perform command).2 = .ok reply) (hd : d ∈ reply.shown) (same : d.id = i) :
    p d := by
  rcases mem_shown h hd with old | fresh
  · exact settled.holds d old same
  · have below := settled.below
    omega

/-- What is settled about an identifier stays settled, and nothing else is shown of it. -/
theorem settled_run {p : Dataset → Prop} (settled : session.store.Settled i p)
    (commands : List Command) :
    (session.run commands).1.store.Settled i p ∧
      ∀ reply, .ok reply ∈ (session.run commands).2 → ∀ d ∈ reply.shown, d.id = i → p d := by
  induction commands generalizing session with
  | nil => exact ⟨settled, by simp [run]⟩
  | cons command rest ih =>
    obtain ⟨later, shown⟩ := ih (settled_perform settled command)
    refine ⟨later, ?_⟩
    intro reply hreply d hd same
    rcases List.mem_cons.1 hreply with here | there
    · exact shown_perform settled here.symm hd same
    · exact shown reply there d hd same

theorem mem_run (commands : List Command) (hd : d ∈ session.store.datasets)
    (kept : ¬ session.DeletedIn d.id commands) : d ∈ (session.run commands).1.store.datasets := by
  induction commands generalizing session with
  | nil => exact hd
  | cons command rest ih =>
    have here : ¬ session.Deletes command d.id := fun deleted => kept (.inl deleted)
    exact ih (mem_perform hd here) fun deleted => kept (.inr deleted)

/-- After its deletion an identifier that was given out is settled to be nobody's. -/
theorem gone_run {p : Dataset → Prop} (settled : session.store.Settled i p)
    {commands : List Command} (deleted : session.DeletedIn i commands) :
    (session.run commands).1.store.Settled i fun _ => False := by
  induction commands generalizing session with
  | nil => exact absurd deleted id
  | cons command rest ih =>
    -- the first command deletes it, and it stays gone while the others run, or one of the others
    -- does
    rcases deleted with here | there
    · have gone : (session.perform command).1.store.Settled i fun _ => False :=
        ⟨(settled_perform settled command).below, gone_perform here⟩
      exact (settled_run gone rest).1
    · exact ih (settled_perform settled command) there

/-! ### The history of a dataset -/

/-- A dataset that is stored at some time has the rows it was stored from. As long as no command
deletes it, every viewer who may see it gets it as it was stored, under each value equal to its
identifier, and a query gives the rows that it gives on the original ones. Once it is deleted,
nobody gets anything under its identifier, and no later command shows a dataset with it. At no time
another dataset with its identifier is shown. -/
theorem created_lasts (start : Timestamp) (before after : List Command) {command : Command}
    {rows : List Row} {d : Dataset}
    (created : (Session.run ⟨.empty, start⟩ before).1.Creates command rows d) :
    let stored := (Session.run ⟨.empty, start⟩ (before ++ [command])).1
    let later := (stored.run after).1
    d.rows = rows ∧
      (¬ stored.DeletedIn d.id after → ∀ id viewer, (Value.int d.id).eqv id → d.visibleTo viewer →
        later.store.get id viewer = .ok d ∧
          ∀ query, (later.perform (.evaluate id viewer query)).2 =
            (evaluate (some rows) query .null).map .rows) ∧
      (stored.DeletedIn d.id after →
        (∀ id viewer, (Value.int d.id).eqv id → later.store.get id viewer = .error (.notFound id)) ∧
          ∀ more reply, .ok reply ∈ (later.run more).2 → ∀ e ∈ reply.shown, e.id ≠ d.id) ∧
      ∀ reply, .ok reply ∈ (stored.run after).2 → ∀ e ∈ reply.shown, e.id = d.id → e = d := by
  intro stored later
  have keyed : stored.store.Keyed := keyed_run Store.keyed_empty _
  have hd : d ∈ stored.store.datasets := by
    have mem := created.mem
    simpa only [stored, run_append, run] using mem
  -- what follows, before and after a deletion, only uses that `d` alone has its identifier
  have settled : stored.store.Settled d.id (· = d) :=
    ⟨keyed.below d hd, fun e he same => keyed.eq_of_id_eq he hd same⟩
  refine ⟨created.rows_eq, ?_, ?_, (settled_run settled after).2⟩
  · intro kept id viewer same visible
    have got : later.store.get id viewer = .ok d :=
      Store.get_of_mem (keyed_run keyed after) (mem_run after hd kept) same visible
    refine ⟨got, ?_⟩
    intro query
    rw [← created.rows_eq]
    simp only [perform, got]
    change (evaluate (some d.rows) query .null >>= fun rs => .ok (Reply.rows rs)) = _
    cases evaluate (some d.rows) query .null <;> rfl
  · intro deleted
    have gone : later.store.Settled d.id fun _ => False := gone_run settled deleted
    refine ⟨?_, ?_⟩
    · intro id viewer same
      exact Store.get_of_not_mem gone.holds same viewer
    · intro more reply hreply e he
      exact (settled_run gone more).2 reply hreply e he

/-- A table of one row is stored for Ann and deleted, and another one of the same name takes its
place: the first identifier stays without a dataset. -/
theorem created_lasts_stored_again :
    let table : Value := .list [.record [("k", .int 1)]]
    let store : Command := .create (.str "a") table (.str "ann")
    let d : Dataset := ⟨1, "a", ["k"], [Row.ofEntries [("k", .int 1)]], .str "ann", ⟨0⟩⟩
    let stored := (Session.run ⟨.empty, ⟨0⟩⟩ [store]).1
    let later := (stored.run [.delete (.bool true) (.str "ann"), store]).1
    Creates ⟨.empty, ⟨0⟩⟩ store [Row.ofEntries [("k", .int 1)]] d ∧
      stored.store.get (.int 1) (.str "ann") = .ok d ∧
      later.store.get (.int 1) (.str "ann") = .error (.notFound (.int 1)) := by
  intro table store d stored later
  have created : Creates ⟨.empty, ⟨0⟩⟩ store [Row.ofEntries [("k", .int 1)]] d :=
    .create ⟨_, rfl, rfl⟩ rfl
  have deleted : stored.DeletedIn 1 [.delete (.bool true) (.str "ann"), store] :=
    .inl ⟨_, _, rfl, by decide +kernel, rfl⟩
  have first := created_lasts ⟨0⟩ [] [] created
  have second := created_lasts ⟨0⟩ [] [.delete (.bool true) (.str "ann"), store] created
  refine ⟨created, ?_, ?_⟩
  · exact (first.2.1 id (.int 1) (.str "ann") (by decide) (by decide)).1
  · exact (second.2.2.1 deleted).1 (.int 1) (.str "ann") (by decide)

end Session

end Tabulate
