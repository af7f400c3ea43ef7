import Tabulate.Proofs.Http.RoundTrip
import Tabulate.Proofs.Json.Acceptance
import Tabulate.Proofs.Whole

/-!
# Answers in strict JSON

Cells may hold any value that the reader of JSON makes, infinities and not-a-number among them, and
figures may overflow. Still every answer in JSON follows the strict grammar and is parsed as what
was to be shown, with `null` for the numbers that are not finite: `App.handle_strict_json`.

That nothing else becomes `null` needs an invariant. A service stores whole rows only, so its
answers in JSON are the texts of whole values: `App.whole_handle`.
-/

namespace Tabulate

namespace Http

/-! ### Answers -/

namespace Answer

/-- Whether an answer in JSON is the text of a whole value. -/
def Whole (answer : Answer) : Prop :=
  answer.mediaType = "application/json" →
    ∃ status data, Value.Whole data ∧ answer = json status data

theorem whole_json (status : Nat) {data : Value} (whole : data.Whole) : (json status data).Whole :=
  fun _ => ⟨status, data, whole, rfl⟩

theorem whole_success (status : Nat) {data : Value} (whole : data.Whole) :
    (success status data).Whole := by
  apply whole_json
  simp [Value.whole_record, whole]

theorem whole_failure (status : Nat) (message : String) {more : List (String × Value)}
    (whole : ∀ f ∈ more, f.2.Whole) : (failure status message more).Whole := by
  apply whole_json
  rw [Value.whole_record, List.forall_mem_append]
  exact ⟨by simp, whole⟩

theorem whole_detail (status : Nat) (text : String) : (detail status text).Whole := by
  apply whole_json
  simp [Value.whole_record]

theorem whole_broken : broken.Whole := fun json => absurd json (by decide)

theorem whole_file (table name : String) : (file table name).Whole :=
  fun json => absurd json (by simp [file])

theorem whole_invalid (complaints : List Complaint) : (invalid complaints).Whole := by
  have errors :
      (Row.ofEntries (complaints.map fun c => (c.location, .str c.problem.message))).Whole := by
    apply Row.whole_empty.foldl_set Prod.fst
    intro entry h
    obtain ⟨c, -, rfl⟩ := List.mem_map.1 h
    exact Value.whole_str _
  apply whole_failure
  simpa using Row.whole_toValue.2 errors

end Answer

/-! ### Requests that say nothing that can be used -/

section Requests

variable {request : Request} {answer : Answer}

theorem whole_readBody (h : request.readBody = .error answer) : answer.Whole := by
  unfold Request.readBody at h
  split at h
  · cases h
  split at h
  · split at h
    · cases h
      exact Answer.whole_detail 400 _
    split at h
    · cases h
    split at h
    · cases h
      exact Answer.whole_invalid _
    · cases h
      exact Answer.whole_detail 400 _
  · cases h

theorem whole_data {α : Type} {check : List (String × Value) → Checked α} {body : Body}
    (h : body.data check = .error answer) : answer.Whole := by
  unfold Body.data at h
  split at h
  · cases h
    exact Answer.whole_invalid _
  · obtain ⟨complaints, -, rfl⟩ := mapError_eq_error h
    exact Answer.whole_invalid complaints
  all_goals
    cases h
    exact Answer.whole_invalid _

theorem whole_identify {credentials : Credentials}
    (h : credentials.identify request = .error answer) : answer.Whole := by
  cases credentials with
  | fixed user => cases h
  | header name =>
    simp only [Credentials.identify] at h
    split at h
    · cases h
      exact Answer.whole_broken
    · cases h

variable {app : App}

theorem App.whole_submission {α : Type} {check : List (String × Value) → Checked α}
    (h : app.submission request check = .error answer) : answer.Whole := by
  rcases submission_refused h with unread | unknown | ⟨body, unusable⟩
  · exact whole_readBody unread
  · exact whole_identify unknown
  · exact whole_data unusable

theorem App.whole_reference {id : String} (h : app.reference request id = .error answer) :
    answer.Whole := by
  rcases reference_refused h with unknown | ⟨complaints, rfl⟩
  · exact whole_identify unknown
  · exact Answer.whole_invalid complaints

/-- The rows of a new dataset come from JSON text, so they are whole. -/
theorem App.whole_rows_of_submission {viewer : Value} {d : DatasetData}
    (h : app.submission request DatasetData.ofFields = .ok (viewer, d)) :
    ∀ row ∈ d.rows, row.Whole := by
  obtain ⟨fields, read, checked⟩ := submission_ok h
  cases empty : d.rows.isEmpty with
  | true =>
    rw [List.isEmpty_iff.1 empty]
    simp
  | false =>
    have textual := textual_readBody read
    have found := rows_of_ofFields textual.2 checked empty
    have fieldsWhole := Value.whole_record.1 textual.present
    exact Row.whole_list_toValue.1 (fieldsWhole _ (Value.mem_of_lookup found))

end Requests

/-! ### Datasets -/

theorem whole_textValue (user : Option String) : (textValue user).Whole := by
  cases user <;> exact trivial

/-- What users see belongs to a user or to nobody, whatever owners there are. -/
theorem whole_owner {d : Dataset} {user : Option String} (visible : d.visibleTo (textValue user)) :
    d.owner.Whole := by
  unfold Dataset.visibleTo at visible
  cases owner : d.owner with
  | null => trivial
  | str s => trivial
  | _ =>
    -- no other value is equal to a text or to `null`
    rw [owner] at visible
    cases user <;> cases visible

theorem whole_dataset {d : Dataset} (owner : d.owner.Whole) : (d.toValue false).Whole := by
  simp [Dataset.toValue, Value.whole_record, Value.whole_list, owner]

theorem whole_dataset_rows {d : Dataset} (owner : d.owner.Whole)
    (rows : ∀ row ∈ d.rows, row.Whole) : (d.toValue true).Whole := by
  have list := Row.whole_list_toValue.2 rows
  simp [Dataset.toValue, Value.whole_record, owner, list, Value.whole_list]

namespace App

variable {app : App}

theorem whole_datasetFailure (fault : Fault) : (datasetFailure fault).Whole := by
  unfold datasetFailure
  split
  · exact Answer.whole_failure 400 _ (by simp)
  · exact Answer.whole_failure 404 _ (by simp)
  · exact Answer.whole_failure 409 _ (by simp)
  · exact Answer.whole_broken

theorem whole_chartFailure (fallback : String) (fault : Fault) :
    (chartFailure fallback fault).Whole := by
  unfold chartFailure
  split
  · exact Answer.whole_failure 404 _ (by simp)
  · exact Answer.whole_failure 400 _ (by simp)
  · exact Answer.whole_failure 500 _ (by simp)

/-! ### What a service shows -/

section Shown

variable (whole : app.store.Whole)
include whole

theorem whole_query {viewer : Value} {c : ChartData} {q : Query} {rows : List Row}
    (h : app.query viewer c = .ok (q, rows)) : ∀ row ∈ rows, row.Whole := by
  obtain ⟨q', -, h⟩ := bind_eq_ok.1 h
  obtain ⟨d, got, h⟩ := bind_eq_ok.1 h
  obtain ⟨made, evaluated, h⟩ := bind_eq_ok.1 h
  cases h
  exact whole_evaluate (whole d (Store.mem_of_get got).1) evaluated

theorem whole_chartData (viewer : Value) (c : ChartData) : (app.chartData viewer c).Whole := by
  unfold chartData
  split
  · rename_i q rows made
    exact Answer.whole_success 200 (Row.whole_list_toValue.2 (whole_query whole made))
  · exact whole_chartFailure _ _

theorem whole_showDataset (user : Option String) (id : Int) :
    (app.showDataset (textValue user) id).Whole := by
  unfold showDataset
  split
  · rename_i d got
    obtain ⟨hd, -, visible⟩ := Store.mem_of_get got
    exact Answer.whole_success 200 (whole_dataset_rows (whole_owner visible) (whole d hd))
  · exact whole_datasetFailure _

end Shown

theorem whole_chartExport (app : App) (viewer : Value) (c : ChartData) :
    (app.chartExport viewer c).Whole := by
  unfold chartExport
  dsimp only
  split
  · split
    · exact Answer.whole_file _ _
    · exact Answer.whole_failure 500 _ (by simp)
  · exact whole_chartFailure _ _

theorem whole_listDatasets (app : App) (user : Option String) :
    (app.listDatasets (textValue user)).Whole := by
  apply Answer.whole_success
  rw [Value.whole_list]
  intro v hv
  obtain ⟨d, hd, rfl⟩ := List.mem_map.1 hv
  have visible := (List.mem_filter.1 (List.mem_mergeSort.1 hd)).2
  exact whole_dataset (whole_owner visible)

theorem whole_health (app : App) : app.health.Whole := by
  apply Answer.whole_json
  simp [Value.whole_record]

/-! ### Requests -/

/-- The answer that is made of what a request says is the text of a whole value if each possible one
is. -/
theorem whole_answering {α : Type} {said : Except Answer α} {reply : α → Answer}
    (refused : ∀ answer, said = .error answer → answer.Whole)
    (replied : ∀ a, said = .ok a → (reply a).Whole) : (answering said reply).Whole := by
  cases said with
  | ok a => exact replied a rfl
  | error answer => exact refused answer rfl

theorem whole_createDataset (whole : app.store.Whole) (user : Option String) {d : DatasetData}
    (rows : ∀ row ∈ d.rows, row.Whole) :
    (app.createDataset (textValue user) d).1.store.Whole ∧
    (app.createDataset (textValue user) d).2.Whole := by
  unfold createDataset
  split
  · exact ⟨whole, whole_datasetFailure _⟩
  split
  · rename_i e store stored
    have kept : store.Whole := whole.create (Row.whole_list_toValue.2 rows) stored
    obtain ⟨base, values, rs, -, -, -, -, inserted⟩ := Store.create_eq_ok stored
    have owner : e.owner.Whole := by
      cases inserted
      exact whole_textValue user
    exact ⟨kept, Answer.whole_success 201 (whole_dataset owner)⟩
  · exact ⟨whole, whole_datasetFailure _⟩

theorem whole_deleteDataset (whole : app.store.Whole) (viewer : Value) (id : Int) :
    (app.deleteDataset viewer id).1.store.Whole ∧ (app.deleteDataset viewer id).2.Whole := by
  unfold deleteDataset
  split
  · rename_i store deleted
    obtain ⟨d, -, rfl⟩ := Store.delete_eq_ok deleted
    refine ⟨whole.erase d.id, Answer.whole_success 200 ?_⟩
    simp [Value.whole_record]
  · exact ⟨whole, whole_datasetFailure _⟩

/-- A request keeps the rows of a service whole, and its answer, if it is in JSON, is the text of a
whole value. -/
theorem whole_handle (whole : app.store.Whole) (request : Request) :
    (app.handle request).1.store.Whole ∧ (app.handle request).2.Whole := by
  unfold handle
  split
  case h_1 => exact ⟨whole, app.whole_health⟩
  case h_2 => exact ⟨whole, whole_answering (fun _ => whole_submission) fun a _ =>
    whole_chartData whole a.1 a.2⟩
  case h_3 => exact ⟨whole, whole_answering (fun _ => whole_submission) fun a _ =>
    app.whole_chartExport a.1 a.2⟩
  case h_4 => exact ⟨whole, whole_answering (fun _ => whole_identify) fun user _ =>
    app.whole_listDatasets user⟩
  case h_5 =>
    split
    · rename_i viewer d said
      obtain ⟨user, -, rfl⟩ := exists_user_of_submission said
      exact whole_createDataset whole user (whole_rows_of_submission said)
    · rename_i answer said
      exact ⟨whole, whole_submission said⟩
  case h_6 id _ _ =>
    refine ⟨whole, whole_answering (fun _ => whole_reference) ?_⟩
    rintro ⟨viewer, i⟩ said
    obtain ⟨user, -, rfl, -⟩ := exists_user_of_reference said
    exact whole_showDataset whole user i
  case h_7 id _ _ =>
    split
    · rename_i viewer i said
      exact whole_deleteDataset whole viewer i
    · rename_i answer said
      exact ⟨whole, whole_reference said⟩
  case h_8 => exact ⟨whole, Answer.whole_detail 405 _⟩
  case h_9 => exact ⟨whole, Answer.whole_detail 404 _⟩

/-! ### Services from the start -/

theorem whole_start {seed : Option String} {clock : Timestamp} {credentials : Credentials}
    {app : App} (h : start seed clock credentials = .ok app) : app.store.Whole := by
  rw [start_eq h]
  apply Session.whole_run Store.whole_empty
  intro command loads
  obtain ⟨text, -, rfl⟩ := List.mem_map.1 loads
  trivial

/-- The services that there can be: new ones, with a seed or without, ones that were given a store
filled with whole rows, and what requests make of them at any times. -/
inductive Reachable : App → Prop
  | start {seed : Option String} {clock : Timestamp} {credentials : Credentials} {app : App}
      (started : App.start seed clock credentials = .ok app) : Reachable app
  | filled (clock : Timestamp) {commands : List Command}
      (whole : ∀ command ∈ commands, command.Whole) (credentials : Credentials) :
      Reachable ⟨(Session.run ⟨.empty, clock⟩ commands).1, credentials⟩
  | handle {app : App} (before : Reachable app) (now : Timestamp) (request : Request) :
      Reachable ({ app with clock := now }.handle request).1

/-- The rows of a service are whole at all times. -/
theorem Reachable.whole {app : App} (reachable : app.Reachable) : app.store.Whole := by
  induction reachable with
  | start started => exact whole_start started
  | filled clock whole credentials => exact Session.whole_run Store.whole_empty whole
  | @handle app before now request ih =>
    have timed : ({ app with clock := now } : App).store.Whole := ih
    exact (whole_handle timed request).1

/-- Every answer in JSON is the text of a value in which nothing is missing. Whatever that value is,
the text follows the strict grammar and stands for what answers show of the value: all fields but
the internal ones, with `null` for the numbers that are not finite. And that is what a strict parser
makes of the text. -/
theorem handle_strict_json {app : App} (reachable : app.Reachable) (now : Timestamp)
    (request : Request) :
    let answer := ({ app with clock := now }.handle request).2
    answer.mediaType = "application/json" →
      (∃ status data, Value.Whole data ∧ answer = .json status data) ∧
        ∀ status data, Value.Whole data → answer = .json status data →
          Json.Grammar (.element data.opened.finitized) answer.body.toList ∧
            Json.parse answer.body.toList = some data.opened.finitized := by
  intro answer json
  have timed : ({ app with clock := now } : App).store.Whole := reachable.whole
  refine ⟨(whole_handle timed request).2 json, ?_⟩
  intro status data whole same
  have text : Json.Grammar (.element data.opened.finitized) answer.body.toList := by
    rw [same, ← Value.plain_eq_finitized data whole]
    exact Json.grammar_write data
  exact ⟨text, Json.parse_eq_some_iff.2 text⟩

/-- A sum overflows, and its key has a quotation mark, a backslash and control characters in it. -/
theorem handle_strict_json_overflow :
    let row := "\x7b\"k\": \"\\\"\\\\\\n\\u0001\", \"v\": 1e308\x7d"
    let seed := "[\x7b\"name\": \"a\", \"rows\": [" ++ row ++ ", " ++ row ++ "]\x7d]"
    let app : App := ⟨(Session.run ⟨.empty, ⟨0⟩⟩ [.load seed]).1, .fixed none⟩
    let request : Request :=
      ⟨"POST", "/api/charts/data", [("Content-Type", "application/json")],
        "\x7b\"datasetId\": 1, \"xAxis\": \"k\", \"yAxis\": \"v\", \"aggregation\": \"sum\"\x7d"⟩
    let chart (figure : Value) : Value :=
      .record [("success", .bool true),
        ("data", .list [.record [("k", .str "\"\\\n\x01"), ("v", figure)]])]
    let answer := ({ app with clock := ⟨0⟩ }.handle request).2
    answer = .json 200 (chart (.float (.infinite false))) ∧
    Json.parse answer.body.toList = some (chart .null) := by
  intro row seed app request chart answer
  have reachable : app.Reachable := .filled ⟨0⟩ (by simp [Command.Whole]) (.fixed none)
  have same : answer = .json 200 (chart (.float (.infinite false))) := by decide +kernel
  have json : answer.mediaType = "application/json" := by
    rw [same]
    rfl
  have whole : (chart (.float (.infinite false))).Whole := by
    simp [chart, Value.whole_record, Value.whole_list]
  have strict := (handle_strict_json reachable ⟨0⟩ request json).2 200 _ whole same
  have shown : (chart (.float (.infinite false))).opened.finitized = chart .null := by
    decide +kernel
  exact ⟨same, shown ▸ strict.2⟩

end App

end Http

end Tabulate
