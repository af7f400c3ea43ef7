import Tabulate.Proofs.Http.Changes
import Tabulate.Proofs.Http.FileName
import Tabulate.Proofs.Query.Faults
import Tabulate.Proofs.Store.History

/-!
# Charts

A request for a chart is rejected, names a dataset that its user does not see, or is answered with
rows: `App.query_outcome`. The rows that a dataset holds never stand in the way, so no request for
data fails otherwise: `App.handle_chartData`. The file of a chart is refused exactly when its data
are, unless its name cannot be sent: `App.handle_charts_agree`.
-/

namespace Tabulate.Http

/-! ### The query of a request -/

/-- A query was rejected. -/
def Rejects (fault : Fault) : Prop := ∃ cause, fault = .rejected cause

namespace ChartData

variable {c : ChartData} {q : Query}

/-- The query of a request is accepted, or it is rejected: its parts are of the kinds that they
ought to be. -/
theorem failsOnly_ofValue (c : ChartData) : FailsOnly Rejects (Query.ofValue c.toValue) := by
  have rejects (cause : Rejection) : Rejects (.rejected cause) := ⟨cause, rfl⟩
  have picks (keys : List String) : FailsOnly Rejects (Wire.pick c.toValue keys) :=
    Wire.failsOnly_pick (fun _ => .ok _) keys
  apply Query.failsOnly_ofValue rejects _ picks
  · intro v given
    cases given
    exact Wire.failsOnly_names (.ok _) (.ok _)
  · intro v given
    cases given
    rw [Wire.filters_list]
    apply Wire.failsOnly_predicates rejects
    intro filter hfilter
    obtain ⟨f, -, rfl⟩ := List.mem_map.1 hfilter
    exact .ok (f.operator != "")
  · intro v given
    cases given
    exact .ok _
  · apply Wire.failsOnly_aggregation rejects (picks _)
    intro v given
    obtain ⟨id, x, y, aggregation, groupBy, filters⟩ := c
    cases aggregation with
    | none =>
      cases given
      exact .ok false
    | some name =>
      cases given
      exact .ok (name != "")

/-- An accepted query has the identifier of the request. -/
theorem datasetId_of_accepted (accepted : Query.ofValue c.toValue = .ok q) :
    q.datasetId = .int c.datasetId := by
  obtain ⟨v, picked, identified⟩ := (Query.reads_of_ofValue accepted).datasetId
  cases picked
  exact (Except.ok.inj identified).symm

end ChartData

namespace App

variable {app : App} {user : Value} {c : ChartData} {q : Query} {fault : Fault} {d : Dataset}

/-! ### Outcomes -/

theorem query_of_rejected (rejected : Query.ofValue c.toValue = .error fault) :
    app.query user c = .error fault := by
  rw [query, rejected]
  rfl

theorem query_of_hidden (accepted : Query.ofValue c.toValue = .ok q)
    (hidden : app.store.get (.int c.datasetId) user = .error fault) :
    app.query user c = .error fault := by
  rw [query, accepted]
  simp only [bind, Except.bind, ChartData.datasetId_of_accepted accepted, hidden]

/-- A dataset that the user sees is shown, whatever it holds. -/
theorem query_of_shown (accepted : Query.ofValue c.toValue = .ok q)
    (got : app.store.get (.int c.datasetId) user = .ok d) :
    ∃ rows, evaluate (some d.rows) c.toValue .null = .ok rows ∧
      app.query user c = .ok (q, rows) := by
  have normal := Query.normal_of_ofValue accepted
  obtain ⟨rows, ran⟩ := normal.exists_run d.rows
  refine ⟨rows, ?_, ?_⟩
  · rw [Query.evaluate_of_accepted accepted, ran]
  · rw [query, accepted]
    simp only [bind, Except.bind, ChartData.datasetId_of_accepted accepted, got,
      Query.evaluate_toValue normal, ran]
    rfl

/-- What becomes of the query of a request. -/
inductive QueryOutcome (app : App) (user : Value) (c : ChartData) : Prop
  | rejected (cause : Rejection) (rejected : app.query user c = .error (.rejected cause))
  | hidden (id : Value) (hidden : app.query user c = .error (.notFound id))
  | shown (q : Query) (rows : List Row) (accepted : Query.ofValue c.toValue = .ok q)
      (shown : app.query user c = .ok (q, rows))

theorem query_outcome (app : App) (user : Value) (c : ChartData) : app.QueryOutcome user c := by
  cases read : Query.ofValue c.toValue with
  | error fault =>
    obtain ⟨cause, rfl⟩ := c.failsOnly_ofValue fault read
    exact .rejected cause (query_of_rejected read)
  | ok q =>
    cases got : app.store.get (.int c.datasetId) user with
    | error fault =>
      obtain rfl := Store.get_eq_error got
      exact .hidden _ (query_of_hidden read got)
    | ok d =>
      obtain ⟨rows, -, shown⟩ := query_of_shown read got
      exact .shown q rows read shown

/-! ### Data -/

/-- The answer to a request for the data of a chart. -/
structure AnswersChart (app : App) (request : Request) (user : Option String) : Prop where
  unchanged : (app.handle request).1 = app
  /-- A body that is not the data of a chart query is answered with what is wrong with it. -/
  unusable : ∀ answer, app.submission request ChartData.ofFields = .error answer →
    (app.handle request).2 = answer ∧ answer.status = 400
  /-- A query that is not accepted is answered with the reason. -/
  rejected : ∀ c fault, app.submission request ChartData.ofFields = .ok (textValue user, c) →
    Query.ofValue c.toValue = .error fault →
    ∃ cause, fault = .rejected cause ∧
      (app.handle request).2 = .failure 400 cause.message [("field", .str cause.field)]
  /-- An accepted one is answered with 404 if no dataset with its identifier is visible to the
  user, -/
  hidden : ∀ c q, app.submission request ChartData.ofFields = .ok (textValue user, c) →
    Query.ofValue c.toValue = .ok q →
    (∀ d ∈ app.store.datasets, (d.id : Int) = c.datasetId → ¬ d.visibleTo (textValue user)) →
    (app.handle request).2 =
      .failure 404 ("Failed to load chart data: " ++ (Fault.notFound (.int c.datasetId)).message) []
  /-- and with the rows that it makes of the dataset if there is one. -/
  shown : ∀ c q d, app.submission request ChartData.ofFields = .ok (textValue user, c) →
    Query.ofValue c.toValue = .ok q → d ∈ app.store.datasets → (d.id : Int) = c.datasetId →
    d.visibleTo (textValue user) →
    ∃ rows, evaluate (some d.rows) c.toValue .null = .ok rows ∧
      (app.handle request).2 = .success 200 (.list (rows.map Row.toValue))
  status : (app.handle request).2.status ∈ [200, 400, 404]

theorem answersChart {request : Request} {name : Option String} (keyed : app.store.Keyed)
    (identified : app.credentials.identify request = .ok name)
    (route : Route.ofPath request.path = some .chartData) (method : request.method = "POST") :
    app.AnswersChart request name := by
  have handled : app.handle request =
      (app, answering (app.submission request ChartData.ofFields) fun said =>
        app.chartData said.1 said.2) := by
    simp only [handle, route, method]
  have answered {c : ChartData}
      (said : app.submission request ChartData.ofFields = .ok (textValue name, c)) :
      (app.handle request).2 = app.chartData (textValue name) c := by
    rw [handled, said]
    rfl
  refine
    { unchanged := by rw [handled], unusable := ?_, rejected := ?_, hidden := ?_, shown := ?_,
      status := ?_ }
  · intro answer said
    rw [handled, said]
    exact ⟨rfl, status_submission identified said⟩
  · intro c fault said rejected
    obtain ⟨cause, rfl⟩ := c.failsOnly_ofValue fault rejected
    rw [answered said, chartData, query_of_rejected rejected]
    exact ⟨cause, rfl, rfl⟩
  · intro c q said accepted absent
    rw [answered said, chartData]
    cases got : app.store.get (.int c.datasetId) (textValue name) with
    | error fault =>
      obtain rfl := Store.get_eq_error got
      rw [query_of_hidden accepted got]
      rfl
    | ok d =>
      obtain ⟨hd, same, visible⟩ := Store.mem_of_get got
      exact absurd visible (absent d hd (beq_iff_eq.1 same))
  · intro c q d said accepted hd same visible
    obtain ⟨rows, shown, answer⟩ :=
      query_of_shown accepted (Store.get_of_mem keyed hd (beq_iff_eq.2 same) visible)
    rw [answered said, chartData, answer]
    exact ⟨rows, shown, rfl⟩
  · cases said : app.submission request ChartData.ofFields with
    | error answer =>
      have refused := status_submission identified said
      rw [handled, said]
      simp [answering, refused]
    | ok submitted =>
      obtain ⟨viewer, c⟩ := submitted
      obtain rfl := submission_eq_ok identified said
      rw [answered said, chartData]
      cases app.query_outcome (textValue name) c with
      | rejected cause rejected => simp [rejected, chartFailure, Answer.failure, Answer.json]
      | hidden id hidden => simp [hidden, chartFailure, Answer.failure, Answer.json]
      | shown q rows _ shown => simp [shown, Answer.success, Answer.json]

/-- Charts do not fail on data. A wire query that is accepted gives rows, whatever the rows hold,
and one that is not is rejected with or without a dataset. So, after any commands, a known user who
asks for the data of a chart is answered with what is wrong with the request, with 404 or with the
rows. -/
theorem handle_chartData (start : Timestamp) (commands : List Command) (credentials : Credentials)
    {request : Request} {name : Option String}
    (identified : credentials.identify request = .ok name)
    (posted : Route.ofPath request.path = some .chartData ∧ request.method = "POST") :
    (∀ wire, Query.Evaluates wire) ∧
      AnswersChart ⟨(Session.run ⟨.empty, start⟩ commands).1, credentials⟩ request name := by
  have keyed : (Session.run ⟨.empty, start⟩ commands).1.store.Keyed :=
    Session.keyed_run Store.keyed_empty commands
  exact ⟨Query.evaluates, answersChart keyed identified posted.1 posted.2⟩

/-- A sum by a list, of a text and of an integer that is too large for a number: the owner of the
dataset is answered with rows, and someone else is told that there is no dataset. -/
theorem handle_chartData_odd_cells :
    let rows : Value :=
      .list [.record [("k", .list [.int 1]), ("v", .int (10 ^ 400))], .record [("v", .str "x")]]
    let commands : List Command := [.create (.str "n") rows (.str "ann")]
    let request : Request := ⟨"POST", "/api/charts/data", [("Content-Type", "application/json")],
      "\x7b\"datasetId\": \"1\", \"xAxis\": \"k\", \"yAxis\": \"v\", \"aggregation\": \"sum\"\x7d"⟩
    let app (user : String) : App := ⟨(Session.run ⟨.empty, ⟨0⟩⟩ commands).1, .fixed (some user)⟩
    (Route.ofPath request.path = some .chartData ∧ request.method = "POST") ∧
      ((app "ann").handle request).2.status = 200 ∧
      ((app "bob").handle request).2.status = 404 := by
  intro rows commands request app
  have posted : Route.ofPath request.path = some .chartData ∧ request.method = "POST" := by
    decide +kernel
  have answers (user : String) : AnswersChart (app user) request (some user) :=
    (handle_chartData ⟨0⟩ commands (.fixed (some user)) rfl posted).2
  have said : (app "ann").submission request ChartData.ofFields =
      .ok (.str "ann", ⟨1, some "k", some "v", some "sum", [], []⟩) := by decide +kernel
  have said' : (app "bob").submission request ChartData.ofFields =
      .ok (.str "bob", ⟨1, some "k", some "v", some "sum", [], []⟩) := by decide +kernel
  have accepted : Query.ofValue (ChartData.toValue ⟨1, some "k", some "v", some "sum", [], []⟩) =
      .ok ⟨.int 1, some "k", some "v", .sum, [], []⟩ := by decide +kernel
  obtain ⟨d, hd, id, owner⟩ : ∃ d ∈ (app "ann").store.datasets, (d.id : Int) = 1 ∧
      d.visibleTo (.str "ann") := by
    decide +kernel
  have hidden : ∀ d ∈ (app "bob").store.datasets, (d.id : Int) = 1 →
      ¬ d.visibleTo (.str "bob") := by decide +kernel
  refine ⟨posted, ?_, ?_⟩
  · obtain ⟨rows, -, answer⟩ := (answers "ann").shown _ _ d said accepted hd id owner
    rw [answer]
    rfl
  · rw [(answers "bob").hidden _ _ said' accepted hidden]
    rfl

/-! ### Files -/

/-- The file of a chart is refused as its data are, and made of the same rows, if its name can be
sent. -/
theorem chartExport_of_failed (failed : app.query user c = .error fault) :
    app.chartExport user c = chartFailure "Failed to export chart data" fault := by
  rw [chartExport, failed]
  rfl

theorem chartExport_of_shown {rows : List Row} {name : String}
    (shown : app.query user c = .ok (q, rows)) (named : exportFileName q.toValue = .ok name) :
    app.chartExport user c =
      if isHeaderText name then .file (Csv.table rows []) name
      else .failure 500 "Failed to export chart data" [] := by
  rw [chartExport, shown]
  simp only [bind, Except.bind, named]
  rfl

/-- The answers `data` and `file` to requests for the data of a chart and for its file, both of
which say what `request` says. -/
structure ChartsAgree (app : App) (request : Request) (data file : Answer) : Prop where
  /-- What is refused to one of them is refused to both. -/
  refused : data.status ∈ [400, 404] ∨ file.status ∈ [400, 404] → data = file
  /-- There is no file without data. -/
  data_of_file : file.status = 200 → data.status = 200
  /-- The file holds the rows of the data, and there is one if its name can be sent. -/
  file_of_data : data.status = 200 → ∃ user c q rows name,
    app.submission request ChartData.ofFields = .ok (user, c) ∧ Query.ofValue c.toValue = .ok q ∧
    exportFileName q.toValue = .ok name ∧ data = .success 200 (.list (rows.map Row.toValue)) ∧
    (q.Sendable → file = .file (Csv.table rows []) name) ∧
    (¬ q.Sendable → file = .failure 500 "Failed to export chart data" [])

theorem ChartsAgree.of_eq {request : Request} {answer : Answer} (failed : 400 ≤ answer.status) :
    app.ChartsAgree request answer answer where
  refused _ := rfl
  data_of_file ok := ok
  file_of_data ok := absurd failed (by omega)

theorem chartsAgree {request : Request}
    (said : app.submission request ChartData.ofFields = .ok (user, c)) :
    app.ChartsAgree request (app.chartData user c) (app.chartExport user c) := by
  cases app.query_outcome user c with
  | rejected cause rejected =>
    rw [chartExport_of_failed rejected, chartData, rejected]
    exact .of_eq (Nat.le_refl 400)
  | hidden id hidden =>
    rw [chartExport_of_failed hidden, chartData, hidden]
    exact .of_eq (Nat.le_add_right 400 4)
  | shown q rows accepted shown =>
    obtain ⟨name, named, sendable⟩ :=
      Query.exportFileName_toValue (Query.normal_of_ofValue accepted)
    rw [chartExport_of_shown shown named, chartData, shown]
    have ok : (Answer.success 200 (.list (rows.map Row.toValue))).status = 200 := rfl
    by_cases sent : isHeaderText name
    · rw [if_pos sent]
      refine ⟨?_, fun _ => ok, fun _ =>
        ⟨user, c, q, rows, name, said, accepted, named, rfl, fun _ => rfl, ?_⟩⟩
      · simp [Answer.file, Answer.success, Answer.json]
      · exact fun unsendable => absurd (sendable.1 sent) unsendable
    · rw [if_neg sent]
      refine ⟨?_, fun _ => ok, fun _ =>
        ⟨user, c, q, rows, name, said, accepted, named, rfl, ?_, fun _ => rfl⟩⟩
      · simp [Answer.failure, Answer.success, Answer.json]
      · exact fun able => absurd (sendable.2 able) sent

/-- The data of a chart and its file, for one body and one user. If either is answered with 400 or
404, the other is answered the same, and there is no file without data. There are data without a
file if a letter or digit in the name of the file cannot be sent in a header, and only then. -/
theorem handle_charts_agree (app : App) (headers : List (String × String)) (body : String)
    {dataPath filePath : String} (dataRoute : Route.ofPath dataPath = some .chartData)
    (fileRoute : Route.ofPath filePath = some .chartExport) :
    app.ChartsAgree ⟨"POST", dataPath, headers, body⟩
        (app.handle ⟨"POST", dataPath, headers, body⟩).2
      (app.handle ⟨"POST", filePath, headers, body⟩).2 := by
  have data_eq : (app.handle ⟨"POST", dataPath, headers, body⟩).2 =
      answering (app.submission ⟨"POST", dataPath, headers, body⟩ ChartData.ofFields) fun said =>
        app.chartData said.1 said.2 := by
    simp only [handle, dataRoute]
  -- what a request says does not depend on its path
  have file_eq : (app.handle ⟨"POST", filePath, headers, body⟩).2 =
      answering (app.submission ⟨"POST", dataPath, headers, body⟩ ChartData.ofFields) fun said =>
        app.chartExport said.1 said.2 := by
    simp only [handle, fileRoute]
    rfl
  rw [data_eq, file_eq]
  cases said : app.submission ⟨"POST", dataPath, headers, body⟩ ChartData.ofFields with
  | error answer => exact .of_eq (failed_submission said)
  | ok submitted => exact chartsAgree said

/-- A letter outside ASCII that can be sent. -/
theorem handle_charts_agree_accented :
    let app : App :=
      ⟨⟨⟨[⟨1, "n", ["é"], [.ofEntries [("é", .int 1)]], .null, ⟨0⟩⟩], 2⟩, ⟨0⟩⟩, .fixed none⟩
    let headers : List (String × String) := [("Content-Type", "application/json")]
    let body :=
      "\x7b\"datasetId\": 1, \"xAxis\": \"é\", \"yAxis\": \"é\", \"aggregation\": \"max\"\x7d"
    Route.ofPath "/api/charts/data" = some .chartData ∧
      Route.ofPath "/api/charts/export" = some .chartExport ∧
      (app.handle ⟨"POST", "/api/charts/data", headers, body⟩).2.status = 200 ∧
      (app.handle ⟨"POST", "/api/charts/export", headers, body⟩).2.status = 200 := by
  intro app headers body
  have dataRoute : Route.ofPath "/api/charts/data" = some .chartData := by decide +kernel
  have fileRoute : Route.ofPath "/api/charts/export" = some .chartExport := by decide +kernel
  have ok : (app.handle ⟨"POST", "/api/charts/data", headers, body⟩).2.status = 200 := by
    decide +kernel
  have said : app.submission ⟨"POST", "/api/charts/data", headers, body⟩ ChartData.ofFields =
      .ok (.null, ⟨1, some "é", some "é", some "max", [], []⟩) := by decide +kernel
  have read : Query.ofValue (ChartData.toValue ⟨1, some "é", some "é", some "max", [], []⟩) =
      .ok ⟨.int 1, some "é", some "é", .max, [], []⟩ := by decide +kernel
  obtain ⟨user, c, q, rows, name, submitted, accepted, -, -, sent, -⟩ :=
    (handle_charts_agree app headers body dataRoute fileRoute).file_of_data ok
  rw [said] at submitted
  cases submitted
  rw [read] at accepted
  cases accepted
  have latin : Latin "é" := latin_of_isHeaderText (by decide)
  have sendable : Query.Sendable ⟨.int 1, some "é", some "é", .max, [], []⟩ := by
    intro _
    simpa using latin
  refine ⟨dataRoute, fileRoute, ok, ?_⟩
  rw [sent sendable]
  rfl

/-- A letter that cannot be sent: the data of the chart are answered and its file is not. -/
theorem handle_charts_disagree_cyrillic :
    let app : App :=
      ⟨⟨⟨[⟨1, "n", ["я"], [.ofEntries [("я", .int 1)]], .null, ⟨0⟩⟩], 2⟩, ⟨0⟩⟩, .fixed none⟩
    let headers : List (String × String) := [("Content-Type", "application/json")]
    let body :=
      "\x7b\"datasetId\": 1, \"xAxis\": \"я\", \"yAxis\": \"я\", \"aggregation\": \"max\"\x7d"
    (app.handle ⟨"POST", "/api/charts/data", headers, body⟩).2 =
        .success 200 (.list [.record [("я", .float (.ofInt 1))]]) ∧
      (app.handle ⟨"POST", "/api/charts/export", headers, body⟩).2 =
        .failure 500 "Failed to export chart data" [] := by
  decide +kernel

end App

end Tabulate.Http
