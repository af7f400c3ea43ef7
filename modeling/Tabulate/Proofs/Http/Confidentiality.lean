import Tabulate.Proofs.Http.Changes
import Tabulate.Proofs.Store.Hidden

/-!
# Confidentiality

What a user is answered tells nothing of the datasets of others: two services whose stores differ
only in datasets that the user must not see give the same answers to all that the user asks, at
every step of a run. The step lemma is `App.Alike.handle`, the run is `App.serve_confidential`.
-/

namespace Tabulate.Http.App

/-! ### Services that are alike -/

/-- Services that a user cannot tell apart. -/
structure Alike (user : Option String) (a b : App) : Prop where
  credentials : a.credentials = b.credentials
  clock : a.clock = b.clock
  store : Store.Alike (textValue user) a.store b.store

section Handlers

variable {user : Option String} {a b : App}

theorem Alike.health (h : Alike user a b) : a.health = b.health := by
  rw [App.health, App.health, h.store.size]

theorem Alike.query (h : Alike user a b) (c : ChartData) :
    a.query (textValue user) c = b.query (textValue user) c := by
  unfold App.query
  simp only [h.store.get]

theorem Alike.chartData (h : Alike user a b) (c : ChartData) :
    a.chartData (textValue user) c = b.chartData (textValue user) c := by
  rw [App.chartData, App.chartData, h.query]

theorem Alike.chartExport (h : Alike user a b) (c : ChartData) :
    a.chartExport (textValue user) c = b.chartExport (textValue user) c := by
  rw [App.chartExport, App.chartExport, h.query]

theorem Alike.listDatasets (h : Alike user a b) :
    a.listDatasets (textValue user) = b.listDatasets (textValue user) := by
  rw [App.listDatasets, App.listDatasets, h.store.list]

theorem Alike.showDataset (h : Alike user a b) (id : Int) :
    a.showDataset (textValue user) id = b.showDataset (textValue user) id := by
  rw [App.showDataset, App.showDataset, h.store.get]

/-- Services give the same answer to a request, and stay alike. -/
def Alike.Steps (user : Option String) (x y : App × Answer) : Prop := x.2 = y.2 ∧ Alike user x.1 y.1

theorem Alike.createDataset (h : Alike user a b) (d : DatasetData) :
    Alike.Steps user (a.createDataset (textValue user) d) (b.createDataset (textValue user) d) := by
  unfold App.createDataset
  split
  · exact ⟨rfl, h⟩
  · rw [← h.clock]
    rcases h.store.create a.clock (.str d.name) (.list (d.rows.map Row.toValue)) with
      ⟨fault, failed, failed'⟩ | ⟨e, s, t, stored, stored', alike⟩
    · rw [failed, failed']
      exact ⟨rfl, h⟩
    · rw [stored, stored']
      exact ⟨rfl, h.credentials, rfl, alike⟩

theorem Alike.deleteDataset (h : Alike user a b) (id : Int) :
    Alike.Steps user (a.deleteDataset (textValue user) id)
      (b.deleteDataset (textValue user) id) := by
  unfold App.deleteDataset
  rcases h.store.delete (.int id) with ⟨fault, failed, failed'⟩ | ⟨s, t, deleted, deleted', alike⟩
  · rw [failed, failed']
    exact ⟨rfl, h⟩
  · rw [deleted, deleted']
    exact ⟨rfl, h.credentials, h.clock, alike⟩

end Handlers

/-! ### What a request says -/

section Requests

variable {user : Option String} {a b : App}

theorem Alike.submission {α : Type} (h : Alike user a b) (request : Request)
    (check : List (String × Value) → Checked α) :
    a.submission request check = b.submission request check := by
  rw [App.submission, App.submission, h.credentials]

theorem Alike.reference (h : Alike user a b) (request : Request) (id : String) :
    a.reference request id = b.reference request id := by
  rw [App.reference, App.reference, h.credentials]

end Requests

theorem answering_congr {α : Type} {said : Except Answer α} {reply reply' : α → Answer}
    (h : ∀ a, said = .ok a → reply a = reply' a) :
    answering said reply = answering said reply' := by
  cases said with
  | error answer => rfl
  | ok a => exact h a rfl

/-! ### Steps and runs -/

/-- Services that are alike answer a request of the user alike, whatever it asks for, and are alike
afterwards. -/
theorem Alike.handle {user : Option String} {a b : App} (h : Alike user a b) {request : Request}
    (identified : a.credentials.identify request = .ok user) :
    Alike.Steps user (a.handle request) (b.handle request) := by
  unfold App.handle
  split
  · exact ⟨h.health, h⟩
  · refine ⟨?_, h⟩
    rw [← h.submission]
    apply answering_congr
    rintro ⟨viewer, c⟩ said
    obtain rfl := submission_eq_ok identified said
    exact h.chartData c
  · refine ⟨?_, h⟩
    rw [← h.submission]
    apply answering_congr
    rintro ⟨viewer, c⟩ said
    obtain rfl := submission_eq_ok identified said
    exact h.chartExport c
  · refine ⟨?_, h⟩
    rw [← h.credentials, identified]
    exact h.listDatasets
  · rw [← h.submission]
    cases said : a.submission request DatasetData.ofFields with
    | error answer => exact ⟨rfl, h⟩
    | ok submitted =>
      obtain ⟨viewer, d⟩ := submitted
      obtain rfl := submission_eq_ok identified said
      exact h.createDataset d
  · rename_i id _ _
    refine ⟨?_, h⟩
    rw [← h.reference]
    apply answering_congr
    rintro ⟨viewer, i⟩ said
    obtain rfl := reference_eq_ok identified said
    exact h.showDataset i
  · rename_i id _ _
    rw [← h.reference]
    cases said : a.reference request id with
    | error answer => exact ⟨rfl, h⟩
    | ok referred =>
      obtain ⟨viewer, i⟩ := referred
      obtain rfl := reference_eq_ok identified said
      exact h.deleteDataset i
  · exact ⟨rfl, h⟩
  · exact ⟨rfl, h⟩

/-- A run of requests that a user makes is answered alike by services that the user cannot tell
apart. -/
theorem Alike.serve {user : Option String} {a b : App} (h : Alike user a b)
    {requests : List (Timestamp × Request)}
    (identified : ∀ r ∈ requests, a.credentials.identify r.2 = .ok user) :
    (a.serve requests).2 = (b.serve requests).2 := by
  induction requests generalizing a b with
  | nil => rfl
  | cons first rest ih =>
    obtain ⟨now, request⟩ := first
    have timed : Alike user { a with clock := now } { b with clock := now } :=
      ⟨h.credentials, rfl, h.store⟩
    obtain ⟨same, alike⟩ := timed.handle (identified _ List.mem_cons_self)
    have later : ∀ r ∈ rest,
        (({ a with clock := now } : App).handle request).1.credentials.identify r.2 = .ok user := by
      intro r hr
      rw [credentials_handle]
      exact identified r (List.mem_cons_of_mem _ hr)
    exact congrArg₂ List.cons same (ih alike later)

/-- What a user is answered does not depend on the datasets that the user must not see. -/
theorem serve_confidential {user : Option String} {a b : App}
    (credentials : a.credentials = b.credentials) (clock : a.clock = b.clock)
    (keyed : a.store.Keyed) (keyed' : b.store.Keyed)
    (agree : Store.Agree (textValue user) a.store b.store) (requests : List (Timestamp × Request))
    (identified : ∀ r ∈ requests, a.credentials.identify r.2 = .ok user) :
    (a.serve requests).2 = (b.serve requests).2 :=
  Alike.serve ⟨credentials, clock, agree.alike keyed keyed'⟩ identified

/-- Requests for a dataset of another owner, for its name and for all datasets, while the two
services hold different ones under its identifier. -/
theorem serve_confidential_two_owners :
    let shared : Dataset := ⟨2, "open", ["k"], [.ofEntries [("k", .int 1)]], .null, ⟨0⟩⟩
    let hidden : Dataset := ⟨1, "plan", ["k"], [.ofEntries [("k", .str "x")]], .str "bob", ⟨5⟩⟩
    let hidden' : Dataset := ⟨1, "list", [], [], .str "eve", ⟨1⟩⟩
    let a : App := ⟨⟨⟨[hidden, shared], 3⟩, ⟨9⟩⟩, .header "X-User"⟩
    let b : App := ⟨⟨⟨[hidden', shared], 3⟩, ⟨9⟩⟩, .header "X-User"⟩
    let ask (method path body : String) : Request :=
      ⟨method, path, [("x-user", " alice "), ("Content-Type", "application/json")], body⟩
    let requests : List (Timestamp × Request) :=
      [ (⟨9⟩, ask "GET" "/api/datasets/1" ""),
        (⟨9⟩, ask "POST" "/api/datasets"
          "\x7b\"name\": \"plan\", \"data\": [\x7b\"k\": 1\x7d]\x7d"),
        (⟨8⟩, ask "DELETE" "/api/datasets/2" ""), (⟨9⟩, ask "GET" "/api/datasets" ""),
        (⟨9⟩, ask "GET" "/health" "") ]
    a.credentials = b.credentials ∧ a.clock = b.clock ∧ a.store.Keyed ∧ b.store.Keyed ∧
      Store.Agree (textValue (some "alice")) a.store b.store ∧
      (∀ r ∈ requests, a.credentials.identify r.2 = .ok (some "alice")) ∧
      (a.serve requests).2 = (b.serve requests).2 := by
  intro shared hidden hidden' a b ask requests
  have keyed : a.store.Keyed := ⟨by decide, by decide⟩
  have keyed' : b.store.Keyed := ⟨by decide, by decide⟩
  have agree : Store.Agree (textValue (some "alice")) a.store b.store := by
    refine ⟨rfl, fun i => Iff.rfl, ?_⟩
    intro d visible
    constructor
    · intro h
      rcases List.mem_cons.1 h with rfl | h
      · cases visible
      · exact List.mem_cons_of_mem _ h
    · intro h
      rcases List.mem_cons.1 h with rfl | h
      · cases visible
      · exact List.mem_cons_of_mem _ h
  have identified : ∀ r ∈ requests, a.credentials.identify r.2 = .ok (some "alice") := by
    decide +kernel
  exact ⟨rfl, rfl, keyed, keyed', agree, identified,
    serve_confidential (a := a) (b := b) rfl rfl keyed keyed' agree requests identified⟩

end Tabulate.Http.App
