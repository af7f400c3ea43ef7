import Tabulate.Proofs.Store.History
import Tabulate.Proofs.Store.WellFormed

/-!
# Owners do not disturb each other

All datasets lie in one store, but what a viewer gets from it depends only on the datasets that they
may see and on the values they ask for: not on the identifiers given to others, and not on how many
others there are. So what a user stores or deletes of their own goes unnoticed by everybody else:
`Session.others_unaffected`.
-/

namespace Tabulate

/-- A dataset without its identifier. -/
def Dataset.unnumbered (d : Dataset) : Dataset := { d with id := 0 }

/-- What a user owns, nobody else sees. -/
theorem Dataset.hidden_of_owner {d : Dataset} {user : String} {viewer : Value}
    (own : d.owner = .str user) (other : viewer ≠ .str user) : d.visibleTo viewer = false := by
  rw [visibleTo, own]
  cases viewer with
  | str s =>
    have different : user ≠ s := by
      rintro rfl
      exact other rfl
    simpa using different
  | _ => rfl

namespace Store

variable {s t : Store} {d : Dataset} {id viewer : Value}

/-- The datasets that a viewer may see, in the order in which they were stored. -/
def view (s : Store) (viewer : Value) : List Dataset := s.datasets.filter (·.visibleTo viewer)

theorem mem_view : d ∈ s.view viewer ↔ d ∈ s.datasets ∧ d.visibleTo viewer := List.mem_filter

/-! ### What goes unnoticed -/

theorem Gains.view_eq (gains : s.Gains d t) (hidden : d.visibleTo viewer = false) :
    t.view viewer = s.view viewer := by
  rw [view, gains.datasets_eq, List.filter_append, List.filter_cons_of_neg (by simp [hidden]),
    List.filter_nil, List.append_nil, view]

theorem Keyed.view_erase (keyed : s.Keyed) (hd : d ∈ s.datasets)
    (hidden : d.visibleTo viewer = false) : (s.erase d.id).view viewer = s.view viewer := by
  rw [view, erase, List.filter_filter, view]
  refine List.filter_congr ?_
  intro e he
  by_cases same : e.id = d.id
  · rw [keyed.eq_of_id_eq he hd same, hidden, Bool.false_and]
  · rw [bne_iff_ne.2 same, Bool.and_true]

/-! ### What depends on the datasets in view -/

/-- What nobody gets anything under is answered in the same way by all stores and to all viewers. -/
def refusal (id : Value) : Fault :=
  match id with
  | .list _ | .record _ => .unusableKey id
  | id => .notFound id

theorem eq_refusal {fault : Fault} (h : s.get id viewer = .error fault) : fault = refusal id := by
  cases id with
  | list items => exact (Except.error.inj h).symm
  | record fields => exact (Except.error.inj h).symm
  | _ =>
    -- nothing is found, or what is found is not shown
    simp only [get] at h
    split at h
    · split at h
      · cases h
      · exact (Except.error.inj h).symm
    · exact (Except.error.inj h).symm

/-- Under a number nothing is found unless a dataset that the viewer may see has it for its
identifier. -/
theorem get_of_unseen {i : Int} (equal : (Value.int i).eqv id)
    (unseen : ∀ d ∈ s.datasets, d.id = i → d.visibleTo viewer = false) :
    s.get id viewer = .error (.notFound id) ∧ s.delete id viewer = .error (.notFound id) := by
  have refused : s.get id viewer = .error (.notFound id) := by
    cases got : s.get id viewer with
    | ok d =>
      obtain ⟨hd, equal', visible⟩ := mem_of_get got
      rw [unseen d hd (Value.eqv_int_unique equal' equal)] at visible
      cases visible
    | error fault =>
      rw [eq_refusal got]
      cases id with
      | list items => cases equal
      | record fields => cases equal
      | _ => rfl
  refine ⟨refused, ?_⟩
  rw [delete, refused]
  rfl

section Views

variable (same : t.view viewer = s.view viewer)
include same

theorem list_of_view : t.list viewer = s.list viewer :=
  congrArg (List.mergeSort · Dataset.precedes) same

theorem Keyed.get_of_view (keyed : s.Keyed) (keyed' : t.Keyed) (id : Value) :
    t.get id viewer = s.get id viewer := by
  have carried {s t : Store} (keyed : t.Keyed) (same : t.view viewer = s.view viewer) {d : Dataset}
      (got : s.get id viewer = .ok d) : t.get id viewer = .ok d := by
    obtain ⟨hd, equal, visible⟩ := mem_of_get got
    have member : d ∈ t.view viewer := same ▸ mem_view.2 ⟨hd, visible⟩
    exact get_of_mem keyed (mem_view.1 member).1 equal visible
  cases got : s.get id viewer with
  | ok d => exact carried keyed' same got
  | error fault =>
    cases got' : t.get id viewer with
    | ok d => rw [carried keyed same.symm got'] at got; cases got
    | error fault' => rw [eq_refusal got, eq_refusal got']

/-- The names that a viewer uses are those of datasets that they may see. -/
theorem nameTaken_of_view (name : String) : t.nameTaken viewer name = s.nameTaken viewer name := by
  have viewed (s : Store) :
      s.nameTaken viewer name =
        (s.view viewer).any fun d => d.name == name && d.owner.eqv viewer := by
    rw [nameTaken, view, List.any_filter]
    congr 1
    funext d
    cases owned : d.owner.eqv viewer with
    | true => rw [Dataset.visibleTo_of_owner owned, Bool.true_and]
    | false => simp
  rw [viewed t, viewed s, same]

/-- The name that is chosen is the first one that the viewer does not use, in however large a
store. -/
theorem freeName_of_view (base : String) : t.freeName viewer base = s.freeName viewer base := by
  -- names are free in both stores or in neither, so neither search goes further than the other
  have bound {s t : Store} (same : t.view viewer = s.view viewer) {k k' : Nat}
      (used : ∀ j < k, s.nameTaken viewer (numbered base j) = true)
      (free : t.nameTaken viewer (numbered base k') = false) : k ≤ k' := by
    by_contra before
    have taken := used k' (Nat.lt_of_not_le before)
    rw [← nameTaken_of_view same, free] at taken
    cases taken
  obtain ⟨k, -, chosen, free, used⟩ := s.exists_freeName viewer base
  obtain ⟨k', -, chosen', free', used'⟩ := t.exists_freeName viewer base
  rw [chosen, chosen', Nat.le_antisymm (bound same used free') (bound same.symm used' free)]

theorem create_of_view (now : Timestamp) (name rows : Value) :
    (t.create now name rows viewer).map (·.1.unnumbered) =
      (s.create now name rows viewer).map (·.1.unnumbered) := by
  unfold create
  cases datasetName name with
  | error fault => rfl
  | ok base =>
    cases rows.members with
    | error fault => rfl
    | ok values =>
      simp only [bind, Except.bind, nameTaken_of_view same]
      cases s.nameTaken viewer base with
      | true => rfl
      | false => cases Row.ofValues values <;> rfl

theorem addUnique_of_view (now : Timestamp) (name rows : Value) :
    (t.addUnique now name rows viewer).map (·.1.unnumbered) =
      (s.addUnique now name rows viewer).map (·.1.unnumbered) := by
  unfold addUnique
  cases datasetName name with
  | error fault => rfl
  | ok base =>
    cases rows.members with
    | error fault => rfl
    | ok values =>
      simp only [bind, Except.bind, freeName_of_view same]
      cases Row.ofValues values <;> rfl

end Views

end Store

namespace Session

variable {session : Session} {user : String} {viewer : Value}

/-- The command stores a dataset that the user owns, or deletes one. -/
inductive ActsOnOwn (session : Session) (user : String) : Command → Prop
  | create (name rows : Value) : ActsOnOwn session user (.create name rows (.str user))
  | addUnique (name rows : Value) : ActsOnOwn session user (.addUnique name rows (.str user))
  | delete {id : Value}
      (own : ∀ d, session.store.get id (.str user) = .ok d → d.owner = .str user) :
      ActsOnOwn session user (.delete id (.str user))

/-- Each of the commands stores a dataset that the user owns, or deletes one. -/
def StaysOnOwn (session : Session) (user : String) : List Command → Prop
  | [] => True
  | command :: rest =>
    session.ActsOnOwn user command ∧ (session.perform command).1.StaysOnOwn user rest

theorem view_withStore {result : Except Fault (Dataset × Store)}
    (gains : ∀ d t, result = .ok (d, t) → session.store.Gains d t ∧ d.owner = .str user)
    (other : viewer ≠ .str user) :
    (session.withStore result).1.store.view viewer = session.store.view viewer := by
  cases result with
  | error fault => rfl
  | ok stored =>
    obtain ⟨gained, own⟩ := gains stored.1 stored.2 rfl
    exact gained.view_eq (Dataset.hidden_of_owner own other)

/-- A command of a user on what they own leaves the datasets that anybody else sees as they are. -/
theorem view_perform (keyed : session.store.Keyed) {command : Command}
    (own : session.ActsOnOwn user command) (other : viewer ≠ .str user) :
    (session.perform command).1.store.view viewer = session.store.view viewer := by
  cases own with
  | create name rows =>
    refine view_withStore ?_ other
    intro d t stored
    obtain ⟨base, values, rs, -, -, -, -, inserted⟩ := Store.create_eq_ok stored
    exact ⟨Store.gains_create stored, congrArg (·.1.owner) inserted.symm⟩
  | addUnique name rows =>
    refine view_withStore ?_ other
    intro d t stored
    obtain ⟨base, values, rs, -, -, -, inserted⟩ := Store.addUnique_eq_ok stored
    exact ⟨Store.gains_addUnique stored, congrArg (·.1.owner) inserted.symm⟩
  | @delete id own =>
    rcases session.perform_delete id (.str user) with ⟨fault, failed⟩ | ⟨d, got, done⟩
    · rw [failed]
    · rw [done]
      exact keyed.view_erase (Store.mem_of_get got).1 (Dataset.hidden_of_owner (own d got) other)

/-- So do several of them, one after another. -/
theorem view_run (keyed : session.store.Keyed) {commands : List Command}
    (own : session.StaysOnOwn user commands) (other : viewer ≠ .str user) :
    (session.run commands).1.store.view viewer = session.store.view viewer := by
  induction commands generalizing session with
  | nil => rfl
  | cons command rest ih =>
    obtain ⟨here, later⟩ := own
    exact (ih (keyed_perform keyed command) later).trans (view_perform keyed here other)

/-- Whatever a user stores and deletes of their own, another viewer gets the same list, and under
every value the same dataset or fault. What the viewer stores afterwards is refused for the same
fault or stored under the same name and with the same rows; its identifier alone may be another one.
A dataset of the user and one that never was are not found in the same words. -/
theorem others_unaffected (start : Timestamp) (before turn : List Command) {user : String}
    {viewer : Value} (other : viewer ≠ .str user)
    (own : (Session.run ⟨.empty, start⟩ before).1.StaysOnOwn user turn) :
    let s := (Session.run ⟨.empty, start⟩ before).1.store
    let t := ((Session.run ⟨.empty, start⟩ before).1.run turn).1.store
    t.list viewer = s.list viewer ∧ (∀ id, t.get id viewer = s.get id viewer) ∧
      (∀ now name rows,
        (t.create now name rows viewer).map (·.1.unnumbered) =
          (s.create now name rows viewer).map (·.1.unnumbered) ∧
        (t.addUnique now name rows viewer).map (·.1.unnumbered) =
          (s.addUnique now name rows viewer).map (·.1.unnumbered)) ∧
      (∀ d ∈ t.datasets, d.owner = .str user → ∀ id, (Value.int d.id).eqv id →
        t.get id viewer = .error (.notFound id) ∧ t.delete id viewer = .error (.notFound id)) ∧
      ∀ i : Int, i < 1 ∨ t.nextId ≤ i → ∀ id, (Value.int i).eqv id →
        t.get id viewer = .error (.notFound id) ∧ t.delete id viewer = .error (.notFound id) := by
  intro s t
  have keyed : s.Keyed := keyed_run Store.keyed_empty before
  have wellFormed : t.WellFormed :=
    invariant_run .gain .erase (invariant_run .gain .erase Store.wellFormed_empty before) turn
  have same : t.view viewer = s.view viewer := view_run keyed own other
  refine ⟨Store.list_of_view same, keyed.get_of_view same wellFormed.toKeyed, ?_, ?_, ?_⟩
  · intro now name rows
    exact ⟨Store.create_of_view same now name rows, Store.addUnique_of_view same now name rows⟩
  · intro d hd mine id equal
    refine Store.get_of_unseen equal ?_
    intro e he number
    rw [wellFormed.toKeyed.eq_of_id_eq he hd (Int.ofNat.inj number)]
    exact Dataset.hidden_of_owner mine other
  · intro i unused id equal
    refine Store.get_of_unseen equal ?_
    intro e he number
    have low := wellFormed.id_pos e he
    have high := wellFormed.below e he
    omega

/-- Bob stores two datasets under a name that Ann uses and deletes one of them; Ann's next dataset
gets a higher identifier than it would have, and the same name. -/
theorem others_unaffected_same_name :
    let start : Session := ⟨.empty, ⟨0⟩⟩
    let before : List Command := [.create (.str "a") (.list []) (.str "ann")]
    let turn : List Command :=
      [ .create (.str " a") (.list []) (.str "bob"), .addUnique (.str "a") (.list []) (.str "bob"),
        .delete (.int 2) (.str "bob") ]
    let s := (start.run before).1.store
    let t := ((start.run before).1.run turn).1.store
    Value.str "ann" ≠ .str "bob" ∧ (start.run before).1.StaysOnOwn "bob" turn ∧
      t.list (.str "ann") = s.list (.str "ann") ∧
      (t.addUnique ⟨0⟩ (.str "a") (.list []) (.str "ann")).map (·.1.unnumbered) =
        (s.addUnique ⟨0⟩ (.str "a") (.list []) (.str "ann")).map (·.1.unnumbered) ∧
      t.get (.int 3) (.str "ann") = .error (.notFound (.int 3)) ∧
      t.get (.int 4) (.str "ann") = .error (.notFound (.int 4)) := by
  intro start before turn s t
  have other : Value.str "ann" ≠ .str "bob" := by decide
  have own : (start.run before).1.StaysOnOwn "bob" turn := by
    refine ⟨.create _ _, .addUnique _ _, .delete ?_, trivial⟩
    intro d got
    have first : d = ⟨2, "a", [], [], .str "bob", ⟨0⟩⟩ :=
      Except.ok.inj (got.symm.trans (by decide +kernel))
    rw [first]
  obtain ⟨list, -, stored, hidden, unused⟩ := others_unaffected ⟨0⟩ before turn other own
  have second : (⟨3, "a (1)", [], [], .str "bob", ⟨0⟩⟩ : Dataset) ∈ t.datasets := by decide +kernel
  have next : t.nextId = 4 := by decide +kernel
  exact ⟨other, own, list, (stored ⟨0⟩ (.str "a") (.list [])).2,
    (hidden _ second rfl (.int 3) (by decide)).1,
    (unused 4 (.inr (by exact_mod_cast next.le)) (.int 4) (by decide)).1⟩

end Session

end Tabulate
