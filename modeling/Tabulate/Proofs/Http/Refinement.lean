import Tabulate.Proofs.Http.Changes
import Tabulate.Proofs.Store.History

/-!
# Requests as operations

A request is an operation on the store or none at all: `App.effect` tells which one, from the route,
the method and the status of the answer. So the service holds what operations made of its store, and
it can be read off the answers how many datasets there are: `App.serve_refines_store`.
-/

namespace Tabulate

namespace Store

variable {s : Store} {d : Dataset}

theorem Keyed.nodup (keyed : s.Keyed) : s.datasets.Nodup :=
  .of_map Dataset.id (keyed.increasing.imp Nat.ne_of_lt)

/-- To take out what has the identifier of a dataset is to take out the dataset. -/
theorem Keyed.filter_id (keyed : s.Keyed) (hd : d ∈ s.datasets) :
    s.datasets.filter (·.id != d.id) = s.datasets.erase d := by
  rw [keyed.nodup.erase_eq_filter]
  apply List.filter_congr
  intro e he
  have same : e.id = d.id ↔ e = d := ⟨keyed.eq_of_id_eq he hd, fun h => h ▸ rfl⟩
  simp [bne, same]

/-- Entries that are stored without a fault make as many datasets. -/
theorem size_addEntries {t : Store} {now : Timestamp} {entries : List Value} {ds : List Dataset}
    (h : s.addEntries now entries = (t, .ok ds)) : t.size = s.size + entries.length := by
  induction entries generalizing s ds with
  | nil =>
    cases h
    rfl
  | cons entry rest ih =>
    cases added : s.addEntry now entry with
    | error fault =>
      simp only [addEntries, added] at h
      cases h
    | ok first =>
      obtain ⟨d, s₁⟩ := first
      cases others : s₁.addEntries now rest with
      | mk last result =>
        rw [addEntries_cons added, others] at h
        cases result with
        | error fault => cases h
        | ok later =>
          cases h
          have one : s₁.size = s.size + 1 := by simp [size, (gains_addEntry added).datasets_eq]
          rw [ih others, one, List.length_cons]
          omega

end Store

namespace Http.App

variable {app : App} {request : Request} {user : Option String} {data : DatasetData} {d : Dataset}

/-! ### Effects of a request -/

/-- The request stores the dataset `d` for its user, from the data in its body. -/
structure Stores (app : App) (request : Request) (user : Option String) (data : DatasetData)
    (d : Dataset) : Prop where
  route : Route.ofPath request.path = some .datasets
  method : request.method = "POST"
  identified : app.credentials.identify request = .ok user
  said : app.submission request DatasetData.ofFields = .ok (textValue user, data)
  nonempty : data.rows.isEmpty = false
  dataset : d = ⟨app.store.nextId, strip data.name, inferColumns data.rows, data.rows,
    textValue user, app.clock⟩
  performed : app.toSession.perform
    (.create (.str data.name) (.list (data.rows.map Row.toValue)) (textValue user)) =
      ((app.handle request).1.toSession, .ok (.dataset d))
  handled : app.handle request =
    ({ app with store := ⟨app.store.datasets ++ [d], app.store.nextId + 1⟩ },
      .success 201 (d.toValue false))

/-- The request deletes the dataset `d`, which its user sees. -/
structure Removes (app : App) (request : Request) (user : Option String) (d : Dataset) : Prop where
  route : ∃ text, Route.ofPath request.path = some (.dataset text) ∧
    integer ["dataset_id"] (.str text) = .ok (d.id : Int)
  method : request.method = "DELETE"
  identified : app.credentials.identify request = .ok user
  mem : d ∈ app.store.datasets
  visible : d.visibleTo (textValue user)
  performed : app.toSession.perform (.delete (.int d.id) (textValue user)) =
    ((app.handle request).1.toSession, .ok .done)
  handled : app.handle request =
    ({ app with store := { app.store with datasets := app.store.datasets.erase d } },
      .success 200 (.record [("id", .int d.id)]))

/-- A request with the given outcome leaves the service as it is, and the answer does not say
otherwise. -/
structure Leaves (app : App) (request : Request) (result : App × Answer) : Prop where
  unchanged : result.1 = app
  status : result.2.status ≠ 201
  deletion : request.method = "DELETE" → result.2.status ≠ 200

/-- What a request does to the service. -/
inductive Effect (app : App) (request : Request) : Prop
  | stores {user : Option String} {data : DatasetData} {d : Dataset}
    (stores : app.Stores request user data d)
  | removes {user : Option String} {d : Dataset} (removes : app.Removes request user d)
  | leaves (leaves : app.Leaves request (app.handle request))

theorem Leaves.of_failed {answer : Answer} (failed : 400 ≤ answer.status) :
    app.Leaves request (app, answer) where
  unchanged := rfl
  status := Nat.ne_of_gt (Nat.lt_of_lt_of_le (by decide) failed)
  deletion _ := Nat.ne_of_gt (Nat.lt_of_lt_of_le (by decide) failed)

theorem Leaves.of_read {method : String} {answer : Answer} (asked : request.method = method)
    (reads : method ≠ "DELETE") (status : answer.status ≠ 201) :
    app.Leaves request (app, answer) where
  unchanged := rfl
  status := status
  deletion h := absurd (asked.symm.trans h) reads

theorem effect_createDataset (route : Route.ofPath request.path = some .datasets)
    (method : request.method = "POST") (identified : app.credentials.identify request = .ok user)
    (said : app.submission request DatasetData.ofFields = .ok (textValue user, data)) :
    app.Effect request := by
  have handled := handle_submitted route method said
  cases empty : data.rows.isEmpty with
  | true =>
    rw [createDataset, empty] at handled
    exact .leaves (handled ▸ .of_failed (status_datasetFailure _))
  | false =>
    cases stored :
        app.store.create app.clock (.str data.name) (.list (data.rows.map Row.toValue))
          (textValue user) with
    | error fault =>
      rw [createDataset, empty, stored] at handled
      exact .leaves (handled ▸ .of_failed (status_datasetFailure fault))
    | ok result =>
      obtain ⟨d, store⟩ := result
      obtain ⟨base, values, rs, named, members, -, described, inserted⟩ := Store.create_eq_ok stored
      obtain ⟨name, same, rfl, -⟩ := Store.datasetName_eq_ok named
      cases same
      cases members
      rw [Row.ofValues_map_toValue] at described
      cases described
      rw [createDataset, empty, stored] at handled
      obtain ⟨rfl, rfl⟩ := Prod.mk.inj inserted
      refine .stores ⟨route, method, identified, said, empty, rfl, ?_, handled⟩
      rw [handled]
      simp only [Session.perform, stored, Session.withStore]
      rfl

theorem effect_deleteDataset {text : String} {i : Int} (keyed : app.store.Keyed)
    (route : Route.ofPath request.path = some (.dataset text)) (method : request.method = "DELETE")
    (identified : app.credentials.identify request = .ok user)
    (said : app.reference request text = .ok (textValue user, i)) : app.Effect request := by
  have handled : app.handle request = app.deleteDataset (textValue user) i := by
    simp only [handle, route, method, said]
  cases deleted : app.store.delete (.int i) (textValue user) with
  | error fault =>
    rw [deleteDataset, deleted] at handled
    exact .leaves (handled ▸ .of_failed (status_datasetFailure fault))
  | ok store =>
    obtain ⟨d, got, rfl⟩ := Store.delete_eq_ok deleted
    obtain ⟨hd, same, visible⟩ := Store.mem_of_get got
    have id : (d.id : Int) = i := beq_iff_eq.1 same
    subst id
    rw [deleteDataset, deleted, keyed.filter_id hd] at handled
    refine .removes ⟨⟨text, route, integer_of_reference said⟩, method, identified, hd,
      visible, ?_, handled⟩
    rw [handled, ← keyed.filter_id hd]
    simp only [Session.perform, deleted]

theorem status_chartFailure (fallback : String) (fault : Fault) :
    400 ≤ (chartFailure fallback fault).status := by
  unfold chartFailure
  split
  all_goals simp [Answer.failure, Answer.json]

theorem status_chartData (user : Value) (c : ChartData) : (app.chartData user c).status ≠ 201 := by
  unfold chartData
  split
  · simp [Answer.success, Answer.json]
  · have failed := status_chartFailure "Failed to load chart data" ‹Fault›
    omega

theorem status_chartExport (user : Value) (c : ChartData) :
    (app.chartExport user c).status ≠ 201 := by
  unfold chartExport
  dsimp only
  split
  · split
    · simp [Answer.file]
    · simp [Answer.failure, Answer.json]
  · have failed := status_chartFailure "Failed to export chart data" ‹Fault›
    omega

theorem status_showDataset (user : Value) (i : Int) : (app.showDataset user i).status ≠ 201 := by
  unfold showDataset
  split
  · simp [Answer.success, Answer.json]
  · have failed := status_datasetFailure ‹Fault›
    omega

theorem status_answering {α : Type} {said : Except Answer α} {reply : α → Answer}
    (refused : ∀ answer, said = .error answer → 400 ≤ answer.status)
    (replied : ∀ a, (reply a).status ≠ 201) : (answering said reply).status ≠ 201 := by
  cases said with
  | error answer =>
    have failed := refused answer rfl
    change answer.status ≠ 201
    omega
  | ok a => exact replied a

/-- Any other request leaves the service as it is. -/
theorem leaves_of_other
    (creating : ¬(Route.ofPath request.path = some .datasets ∧ request.method = "POST"))
    (deleting : ¬∃ text, Route.ofPath request.path = some (.dataset text) ∧
      request.method = "DELETE") :
    app.Leaves request (app.handle request) := by
  unfold handle
  split
  case h_1 _ method => exact .of_read method (by decide) (by simp [health, Answer.json])
  case h_2 _ method =>
    apply Leaves.of_read method (by decide)
    exact status_answering (fun _ => failed_submission) fun a => status_chartData a.1 a.2
  case h_3 _ method =>
    apply Leaves.of_read method (by decide)
    exact status_answering (fun _ => failed_submission) fun a => status_chartExport a.1 a.2
  case h_4 _ method =>
    apply Leaves.of_read method (by decide)
    apply status_answering
    · intro answer unknown
      have broken := status_identify unknown
      omega
    · intro user
      simp [listDatasets, Answer.success, Answer.json]
  case h_5 route method => exact absurd ⟨route, method⟩ creating
  case h_6 text _ method =>
    apply Leaves.of_read method (by decide)
    exact status_answering (fun _ => failed_reference) fun a => status_showDataset a.1 a.2
  case h_7 text route method => exact absurd ⟨text, route, method⟩ deleting
  case h_8 => exact .of_failed (Nat.le_add_right 400 5)
  case h_9 => exact .of_failed (Nat.le_add_right 400 4)

/-- A request stores a dataset, deletes one or leaves the service as it is. -/
theorem effect (keyed : app.store.Keyed) (request : Request) : app.Effect request := by
  by_cases creating : Route.ofPath request.path = some .datasets ∧ request.method = "POST"
  · obtain ⟨route, method⟩ := creating
    cases said : app.submission request DatasetData.ofFields with
    | error answer =>
      have handled := handle_rejected route method said
      exact .leaves (handled ▸ .of_failed (failed_submission said))
    | ok submitted =>
      obtain ⟨viewer, data⟩ := submitted
      obtain ⟨user, identified, rfl⟩ := exists_user_of_submission said
      exact effect_createDataset route method identified said
  by_cases deleting : ∃ text, Route.ofPath request.path = some (.dataset text) ∧
    request.method = "DELETE"
  · obtain ⟨text, route, method⟩ := deleting
    cases said : app.reference request text with
    | error answer =>
      have handled : app.handle request = (app, answer) := by
        simp only [handle, route, method, said]
      exact .leaves (handled ▸ .of_failed (failed_reference said))
    | ok referred =>
      obtain ⟨viewer, i⟩ := referred
      obtain ⟨user, identified, rfl, -⟩ := exists_user_of_reference said
      exact effect_deleteDataset keyed route method identified said
  · exact .leaves (leaves_of_other creating deleting)

/-! ### Runs of requests -/

/-- How many answers say that a dataset was stored. -/
def created (answers : List Answer) : Nat := answers.countP (·.status = 201)

/-- How many requests ask for a deletion and are answered that it was made. -/
def deleted (requests : List (Timestamp × Request)) (answers : List Answer) : Nat :=
  (requests.zip answers).countP fun (asked, answer) =>
    asked.2.method = "DELETE" ∧ answer.status = 200

/-- A request changes the number of datasets as its answer says. -/
theorem size_handle (keyed : app.store.Keyed) (request : Request) :
    (app.handle request).1.store.size +
        (if request.method = "DELETE" ∧ (app.handle request).2.status = 200 then 1 else 0) =
      app.store.size + if (app.handle request).2.status = 201 then 1 else 0 := by
  cases effect keyed request with
  | stores stores => simp [stores.handled, stores.method, Store.size, Answer.success, Answer.json]
  | removes removes =>
    have some := List.length_pos_of_mem removes.mem
    simp only [removes.handled, removes.method, Store.size, List.length_erase_of_mem removes.mem]
    simp [Answer.success, Answer.json]
    omega
  | leaves leaves =>
    have kept : ¬(request.method = "DELETE" ∧ (app.handle request).2.status = 200) :=
      fun h => leaves.deletion h.1 h.2
    rw [leaves.unchanged, if_neg kept, if_neg leaves.status]

/-- After requests there are as many datasets as before and as were stored, but for those that were
deleted. -/
theorem size_serve (keyed : app.store.Keyed) (requests : List (Timestamp × Request)) :
    (app.serve requests).1.store.size + deleted requests (app.serve requests).2 =
      app.store.size + created (app.serve requests).2 := by
  induction requests generalizing app with
  | nil => rfl
  | cons first rest ih =>
    obtain ⟨now, request⟩ := first
    have timed : ({ app with clock := now } : App).store.Keyed := keyed
    have step := size_handle timed request
    have later := ih (keyed_handle timed request)
    simp only [serve, created, deleted, List.zip_cons_cons, List.countP_cons, decide_eq_true_eq]
      at step later ⊢
    omega

/-- A request is an operation on the store, or none. -/
theorem exists_operations (keyed : app.store.Keyed) (request : Request) :
    ∃ operations, (app.handle request).1.toSession = (app.toSession.run operations).1 := by
  cases effect keyed request with
  | @stores user data d stores =>
    refine ⟨[.create (.str data.name) (.list (data.rows.map Row.toValue)) (textValue user)], ?_⟩
    exact (congrArg Prod.fst stores.performed).symm
  | @removes user d removes =>
    refine ⟨[.delete (.int d.id) (textValue user)], ?_⟩
    exact (congrArg Prod.fst removes.performed).symm
  | leaves leaves => exact ⟨[], by rw [leaves.unchanged]; rfl⟩

theorem session_serve (keyed : app.store.Keyed) (requests : List (Timestamp × Request)) :
    ∃ operations, (app.serve requests).1.toSession = (app.toSession.run operations).1 := by
  induction requests generalizing app with
  | nil => exact ⟨[], rfl⟩
  | cons first rest ih =>
    obtain ⟨now, request⟩ := first
    have timed : ({ app with clock := now } : App).store.Keyed := keyed
    obtain ⟨here, handled⟩ := exists_operations timed request
    obtain ⟨there, served⟩ := ih (keyed_handle timed request)
    refine ⟨.setClock now :: (here ++ there), ?_⟩
    change _ = (({ app with clock := now } : App).toSession.run (here ++ there)).1
    rw [Session.run_append, ← handled]
    exact served

/-! ### Services from the start -/

variable {clock : Timestamp} {credentials : Credentials}

/-- A service starts with what seeding makes of the empty store. -/
theorem start_eq {seed : Option String} (h : start seed clock credentials = .ok app) :
    app = ⟨(Session.run ⟨.empty, clock⟩ (seed.toList.map .load)).1, credentials⟩ := by
  cases seed with
  | none =>
    cases h
    rfl
  | some text =>
    unfold start at h
    dsimp only at h
    split at h
    · rename_i store ds loaded
      cases h
      simp only [Option.toList_some, List.map_cons, List.map_nil, Session.run,
        Session.perform, loaded]
    · cases h

/-- A seeded service starts with one dataset for each entry. -/
theorem size_start {text : String} (h : start (some text) clock credentials = .ok app) :
    ∃ entries, Store.seedEntries text = .ok entries ∧ app.store.size = entries.length := by
  cases read : Store.seedEntries text with
  | error fault =>
    simp only [start, Store.load, read] at h
    cases h
  | ok entries =>
    simp only [start, Store.load, read] at h
    split at h
    · rename_i store ds loaded
      cases h
      rw [Store.size_addEntries loaded]
      exact ⟨entries, rfl, Nat.zero_add _⟩
    · cases h

/-- Requests refine operations on the store. Whatever a store was filled with, and whatever was
requested, the service holds what operations made of its store, and the next request stores one
dataset for its user, deletes one that its user sees or leaves everything as it is. So the number of
datasets is the one from before the requests, with the answers of status 201 added and the deletions
that were made taken off. A service that starts with a seed has one dataset for each entry before
the requests. -/
theorem serve_refines_store (start : Timestamp) (commands : List Command)
    (credentials : Credentials) (requests : List (Timestamp × Request)) :
    let app : App := ⟨(Session.run ⟨.empty, start⟩ commands).1, credentials⟩
    let later := (app.serve requests).1
    let datasets : Int :=
      app.store.size + created (app.serve requests).2 - deleted requests (app.serve requests).2
    (∃ operations, later.toSession = (app.toSession.run operations).1) ∧
      (∀ now request, Effect { later with clock := now } request) ∧
      (∀ request, Route.ofPath request.path = some .health → request.method = "GET" →
        later.handle request =
          (later, .json 200 (.record [("status", .str "ok"), ("datasets", .int datasets)]))) ∧
      ∀ seed seeded, App.start seed start credentials = .ok seeded →
        seeded = ⟨(Session.run ⟨.empty, start⟩ (seed.toList.map .load)).1, credentials⟩ ∧
          ∀ text ∈ seed, ∃ entries, Store.seedEntries text = .ok entries ∧
            seeded.store.size = entries.length := by
  intro app later datasets
  have keyed : app.store.Keyed := Session.keyed_run Store.keyed_empty commands
  refine ⟨session_serve keyed requests, ?_, ?_, ?_⟩
  · intro now request
    have timed : ({ later with clock := now } : App).store.Keyed := keyed_serve keyed requests
    exact effect timed request
  · intro request route method
    have size : (later.store.size : Int) = datasets := by
      have counted := size_serve keyed requests
      simp only [later, datasets]
      omega
    simp only [handle, route, method, health, size]
  · intro seed seeded started
    refine ⟨start_eq started, ?_⟩
    rintro text rfl
    exact size_start started

/-- One dataset is seeded; another is posted, the seeded one is deleted under a spelling of its
identifier, and a deletion of what is not there fails. -/
theorem serve_refines_store_posted_and_deleted :
    let app : App :=
      ⟨(Session.run ⟨.empty, ⟨0⟩⟩ [.load "[\x7b\"name\": \"a\"\x7d]"]).1, .fixed (some "ann")⟩
    let requests : List (Timestamp × Request) :=
      [ (⟨1⟩, ⟨"POST", "/api/datasets", [("Content-Type", "application/json")],
          "\x7b\"name\": \" b \", \"data\": [\x7b\"k\": 1\x7d]\x7d"⟩),
        (⟨2⟩, ⟨"DELETE", "/api/datasets/%2b1.0", [], ""⟩),
        (⟨3⟩, ⟨"DELETE", "/api/datasets/7", [], ""⟩) ]
    app.store.size = 1 ∧ created (app.serve requests).2 = 1 ∧
      deleted requests (app.serve requests).2 = 1 ∧
      (((app.serve requests).1.handle ⟨"GET", "/health", [], ""⟩).2 =
        .json 200 (.record [("status", .str "ok"), ("datasets", .int 1)])) := by
  intro app requests
  have seeded : app.store.size = 1 := by decide +kernel
  have stored : created (app.serve requests).2 = 1 := by decide +kernel
  have removed : deleted requests (app.serve requests).2 = 1 := by decide +kernel
  have route : Route.ofPath "/health" = some .health := by decide +kernel
  have answered := (serve_refines_store ⟨0⟩ [.load "[\x7b\"name\": \"a\"\x7d]"]
    (.fixed (some "ann")) requests).2.2.1 ⟨"GET", "/health", [], ""⟩ route rfl
  refine ⟨seeded, stored, removed, ?_⟩
  rw [answered, seeded, stored, removed]
  rfl

end Http.App

end Tabulate
