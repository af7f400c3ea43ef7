import Tabulate.Http.App
import Tabulate.Proofs.Store.Ids

/-!
# What requests change

`App.handle_cases` says what a request can do to the service: leave it as it was, store a dataset of
the user who makes the request or delete one for that user. So the store stays keyed and the way in
which users are known stays the same, whatever is asked.
-/

namespace Tabulate.Http

/-! ### Requests that say nothing that can be used -/

theorem status_readBody {request : Request} {answer : Answer}
    (h : request.readBody = .error answer) : answer.status = 400 := by
  unfold Request.readBody at h
  split at h
  · cases h
  split at h
  · split at h
    · cases h
      rfl
    split at h
    · cases h
    split at h
    all_goals
      cases h
      rfl
  · cases h

theorem status_data {α : Type} {check : List (String × Value) → Checked α} {body : Body}
    {answer : Answer} (h : body.data check = .error answer) : answer.status = 400 := by
  unfold Body.data at h
  split at h
  · cases h
    rfl
  · obtain ⟨complaints, -, rfl⟩ := mapError_eq_error h
    rfl
  all_goals
    cases h
    rfl

theorem status_identify {credentials : Credentials} {request : Request} {answer : Answer}
    (h : credentials.identify request = .error answer) : answer.status = 500 := by
  cases credentials with
  | fixed user => cases h
  | header name =>
    simp only [Credentials.identify] at h
    split at h
    · cases h
      rfl
    · cases h

namespace App

theorem status_datasetFailure (fault : Fault) : 400 ≤ (datasetFailure fault).status := by
  unfold datasetFailure
  split
  all_goals simp [Answer.failure, Answer.json, Answer.broken]

section Requests

variable {app : App} {request : Request} {user : Option String} {answer : Answer}

/-- A request has no data that can be used if its body cannot be read, its user is not known or its
body does not pass the check. -/
theorem submission_refused {α : Type} {check : List (String × Value) → Checked α}
    (h : app.submission request check = .error answer) :
    request.readBody = .error answer ∨ app.credentials.identify request = .error answer ∨
      ∃ body : Body, body.data check = .error answer := by
  rcases bind_eq_error.1 h with unread | ⟨body, -, h⟩
  · exact .inl unread
  rcases bind_eq_error.1 h with unknown | ⟨found, -, h⟩
  · exact .inr (.inl unknown)
  rcases bind_eq_error.1 h with unusable | ⟨data, -, h⟩
  · exact .inr (.inr ⟨body, unusable⟩)
  · cases h

/-- A request refers to no dataset if its user is not known or the identifier in its path is
none. -/
theorem reference_refused {id : String} (h : app.reference request id = .error answer) :
    app.credentials.identify request = .error answer ∨
    ∃ complaints, answer = .invalid complaints := by
  rcases bind_eq_error.1 h with unknown | ⟨found, -, h⟩
  · exact .inl unknown
  rcases bind_eq_error.1 h with unreadable | ⟨i, -, h⟩
  · obtain ⟨complaints, -, same⟩ := mapError_eq_error unreadable
    exact .inr ⟨complaints, same.symm⟩
  · cases h

/-- A request without data that can be used is answered with 400, if its user is known. -/
theorem submission_eq_error {α : Type} {check : List (String × Value) → Checked α}
    (h : app.submission request check = .error answer) :
    answer.status = 400 ∨ app.credentials.identify request = .error answer := by
  rcases submission_refused h with unread | unknown | ⟨body, unusable⟩
  · exact .inl (status_readBody unread)
  · exact .inr unknown
  · exact .inl (status_data unusable)

theorem status_submission {α : Type} {check : List (String × Value) → Checked α}
    (named : app.credentials.identify request = .ok user)
    (h : app.submission request check = .error answer) : answer.status = 400 := by
  rcases submission_eq_error h with refused | unknown
  · exact refused
  · rw [named] at unknown
    cases unknown

theorem failed_submission {α : Type} {check : List (String × Value) → Checked α}
    (h : app.submission request check = .error answer) : 400 ≤ answer.status := by
  rcases submission_eq_error h with refused | unknown
  · exact Nat.le_of_eq refused.symm
  · have broken := status_identify unknown
    omega

theorem submission_ok {α : Type} {check : List (String × Value) → Checked α} {viewer : Value}
    {data : α} (h : app.submission request check = .ok (viewer, data)) :
    ∃ fields, request.readBody = .ok (.json (.record fields)) ∧ check fields = .ok data := by
  obtain ⟨body, read, h⟩ := bind_eq_ok.1 h
  obtain ⟨named, -, h⟩ := bind_eq_ok.1 h
  obtain ⟨checked, said, h⟩ := bind_eq_ok.1 h
  cases h
  unfold Body.data at said
  split at said
  · cases said
  · exact ⟨_, read, mapError_eq_ok said⟩
  all_goals cases said

theorem failed_reference {id : String} (h : app.reference request id = .error answer) :
    400 ≤ answer.status := by
  rcases reference_refused h with unknown | ⟨complaints, rfl⟩
  · have broken := status_identify unknown
    omega
  · exact Nat.le_refl 400

/-! ### What requests say -/

/-- A request whose data could be read was made by a user who is known. -/
theorem exists_user_of_submission {α : Type} {check : List (String × Value) → Checked α}
    {viewer : Value} {data : α} (h : app.submission request check = .ok (viewer, data)) :
    ∃ user, app.credentials.identify request = .ok user ∧ viewer = textValue user := by
  obtain ⟨body, -, h⟩ := bind_eq_ok.1 h
  obtain ⟨named, found, h⟩ := bind_eq_ok.1 h
  obtain ⟨checked, -, h⟩ := bind_eq_ok.1 h
  cases h
  exact ⟨named, found, rfl⟩

theorem submission_eq_ok {α : Type} {check : List (String × Value) → Checked α} {viewer : Value}
    {data : α} (identified : app.credentials.identify request = .ok user)
    (h : app.submission request check = .ok (viewer, data)) : viewer = textValue user := by
  obtain ⟨named, found, rfl⟩ := exists_user_of_submission h
  rw [identified] at found
  cases found
  rfl

theorem exists_user_of_reference {id : String} {viewer : Value} {i : Int}
    (h : app.reference request id = .ok (viewer, i)) :
    ∃ user, app.credentials.identify request = .ok user ∧ viewer = textValue user ∧
      integer ["dataset_id"] (.str id) = .ok i := by
  obtain ⟨named, found, h⟩ := bind_eq_ok.1 h
  obtain ⟨j, read, h⟩ := bind_eq_ok.1 h
  cases h
  exact ⟨named, found, rfl, mapError_eq_ok read⟩

theorem integer_of_reference {id : String} {viewer : Value} {i : Int}
    (h : app.reference request id = .ok (viewer, i)) :
    integer ["dataset_id"] (.str id) = .ok i := by
  obtain ⟨-, -, -, read⟩ := exists_user_of_reference h
  exact read

theorem reference_eq_ok {id : String} {viewer : Value} {i : Int}
    (identified : app.credentials.identify request = .ok user)
    (h : app.reference request id = .ok (viewer, i)) : viewer = textValue user := by
  obtain ⟨named, found, rfl, -⟩ := exists_user_of_reference h
  rw [identified] at found
  cases found
  rfl

end Requests

/-! ### What requests do -/

/-- A request leaves the service as it was, stores a new dataset or deletes one. -/
theorem handle_cases (app : App) (request : Request) :
    (app.handle request).1 = app ∨
      (∃ viewer d, app.submission request DatasetData.ofFields = .ok (viewer, d) ∧
        app.handle request = app.createDataset viewer d) ∨
      ∃ id viewer i, Route.ofPath request.path = some (.dataset id) ∧ request.method = "DELETE" ∧
        app.reference request id = .ok (viewer, i) ∧
        app.handle request = app.deleteDataset viewer i := by
  unfold handle
  split
  case h_5 =>
    cases said : app.submission request DatasetData.ofFields with
    | error answer => exact .inl rfl
    | ok submitted => exact .inr (.inl ⟨submitted.1, submitted.2, rfl, rfl⟩)
  case h_7 id route method =>
    cases said : app.reference request id with
    | error answer => exact .inl rfl
    | ok referred => exact .inr (.inr ⟨id, referred.1, referred.2, route, method, said, rfl⟩)
  all_goals exact .inl rfl

/-- A request for a new dataset is carried out with what it says. -/
theorem handle_submitted {app : App} {request : Request} {viewer : Value} {d : DatasetData}
    (route : Route.ofPath request.path = some .datasets) (method : request.method = "POST")
    (said : app.submission request DatasetData.ofFields = .ok (viewer, d)) :
    app.handle request = app.createDataset viewer d := by
  rw [handle, route, method, said]
  rfl

/-- A request for a new dataset that says nothing that can be used is answered with what is
wrong. -/
theorem handle_rejected {app : App} {request : Request} {answer : Answer}
    (route : Route.ofPath request.path = some .datasets) (method : request.method = "POST")
    (said : app.submission request DatasetData.ofFields = .error answer) :
    app.handle request = (app, answer) := by
  rw [handle, route, method, said]
  rfl

/-- A request for one dataset is answered with the dataset under the identifier in its path. -/
theorem handle_referred {app : App} {request : Request} {text : String} {viewer : Value} {i : Int}
    (route : Route.ofPath request.path = some (.dataset text)) (method : request.method = "GET")
    (said : app.reference request text = .ok (viewer, i)) :
    app.handle request = (app, app.showDataset viewer i) := by
  simp only [handle, route, method, said, answering]

/-- The service after a request for a new dataset: as it was, or with the dataset in its store. -/
theorem createDataset_cases (app : App) (viewer : Value) (d : DatasetData) :
    (app.createDataset viewer d).1 = app ∨
      ∃ e store, app.store.create app.clock (.str d.name) (.list (d.rows.map Row.toValue)) viewer =
          .ok (e, store) ∧
        app.createDataset viewer d = ({ app with store }, .success 201 (e.toValue false)) := by
  unfold createDataset
  split
  · exact .inl rfl
  · cases stored :
        app.store.create app.clock (.str d.name) (.list (d.rows.map Row.toValue)) viewer with
    | error fault => exact .inl rfl
    | ok result => exact .inr ⟨result.1, result.2, rfl, rfl⟩

/-- The service after a request for a deletion: as it was, or without the dataset. -/
theorem deleteDataset_cases (app : App) (viewer : Value) (id : Int) :
    (app.deleteDataset viewer id).1 = app ∨
      ∃ store, app.store.delete (.int id) viewer = .ok store ∧
        app.deleteDataset viewer id =
          ({ app with store }, .success 200 (.record [("id", .int id)])) := by
  unfold deleteDataset
  cases deleted : app.store.delete (.int id) viewer with
  | error fault => exact .inl rfl
  | ok store => exact .inr ⟨store, rfl, rfl⟩

/-- How users are known does not change. -/
theorem credentials_handle (app : App) (request : Request) :
    (app.handle request).1.credentials = app.credentials := by
  rcases app.handle_cases request with same | ⟨viewer, d, -, step⟩ | ⟨id, viewer, i, -, -, -, step⟩
  · rw [same]
  · rw [step]
    rcases app.createDataset_cases viewer d with same | ⟨e, store, -, created⟩
    · rw [same]
    · rw [created]
  · rw [step]
    rcases app.deleteDataset_cases viewer i with same | ⟨store, -, deleted⟩
    · rw [same]
    · rw [deleted]

/-! ### Keyed services -/

theorem keyed_start {seed : Option String} {clock : Timestamp} {credentials : Credentials}
    {app : App} (h : start seed clock credentials = .ok app) : app.store.Keyed := by
  unfold start at h
  split at h
  · cases h
    exact Store.keyed_empty
  · rename_i text
    have keyed := Store.keyed_empty.load clock text
    split at h
    · rename_i store _ loaded
      cases h
      rwa [loaded] at keyed
    · cases h

/-- Every request keeps the store of a service keyed. -/
theorem keyed_handle {app : App} (keyed : app.store.Keyed) (request : Request) :
    (app.handle request).1.store.Keyed := by
  rcases app.handle_cases request with same | ⟨viewer, d, -, step⟩ | ⟨id, viewer, i, -, -, -, step⟩
  · rwa [same]
  · rw [step]
    rcases app.createDataset_cases viewer d with same | ⟨e, store, stored, created⟩
    · rwa [same]
    · rw [created]
      exact keyed.create stored
  · rw [step]
    rcases app.deleteDataset_cases viewer i with same | ⟨store, deleted, done⟩
    · rwa [same]
    · rw [done]
      exact keyed.delete deleted

/-- So the store of a service that was started is keyed after any requests. -/
theorem keyed_serve {app : App} (keyed : app.store.Keyed) (requests : List (Timestamp × Request)) :
    (app.serve requests).1.store.Keyed := by
  induction requests generalizing app with
  | nil => exact keyed
  | cons first rest ih =>
    have timed : ({ app with clock := first.1 } : App).store.Keyed := keyed
    exact ih (keyed_handle timed first.2)

end App

end Tabulate.Http
